import ContractProject.Proofs.ImportTable.Redeployment
import ContractProject.Proofs.Installation.Agreement
import ContractProject.Proofs.Project

/-!
Installed sources resolve to what was deployed. A call into a new project leaves one contract for
each source that it found, by the name and at the address of the source, and its code with imports
by name; on the network of the call these names lead back to the addresses that were imported from.
-/

namespace ContractProject

namespace Installation

/-- The contract stands for what is at a source, as no alias. -/
structure StandsFor (c : Contract) (s : Source) : Prop where
  name : c.name = s.contract
  location : c.location = s.location
  canonical : c.canonical = none
  address : c.aliases.address? s.network = some s.address

variable {σ : Type} {gateways : Gateways}

/-! ### Resolving -/

section Mirrors

variable {p : Project} {network : String} {sources : Source → Prop}

/-- What a contract that stands for a source goes by: its name, and the path of the source. -/
theorem endsIn_or_eq_of_goesBy {c : Contract} {u : Source} {k : String} (stands : StandsFor c u)
    (hname : Cadence.isName u.contract) (h : p.GoesBy c k) :
    Path.EndsIn (u.directories ++ [u.fileName]) (Path.clean k) ∨ Path.clean k = u.contract := by
  cases h with
  | location =>
    have hsource : (p.source? c).getD c.location = u.location := by
      simp [Project.source?, Canonical.target?, Canonical.canonical, stands.canonical,
        stands.location]
    rw [hsource]
    exact .inl (Path.clean_endsIn (by simp) (Source.plain_steps hname)
      (Project.endsIn_location hname))
  | name =>
    rw [stands.name]
    exact .inr (Path.clean_of_plain (plain_of_isName hname))

/-- If the contracts of a project stand for sources on a network, one for each name, then a name
that is imported by one of these resolves to the address of the source of that name. -/
theorem resolve_of_mirrors
    (mirrors : ∀ c ∈ p.manifest.contracts.toList, ∃ u, sources u ∧ StandsFor c u)
    (named : ∀ u, sources u → Cadence.isName u.contract ∧ u.network = network)
    (distinct : ∀ u v, sources u → sources v → u.contract = v.contract → u = v)
    (canonical : Collection (String × String)) {s t : Source} (hs : sources s) (ht : sources t)
    (there : t.contract ∈ p.manifest.contracts.keys) :
    (ImportTable.ofPlacements [] (p.aliasAddresses network) canonical).resolve
      (p.location s.location) t.contract = .ok t.address := by
  have hplain := plain_of_isName (named t ht).1
  have hslash : '/' ∉ t.contract.toList := hplain.slash
  have entries (e : String × Address) (he : e ∈ (ImportTable.ofPlacements []
      (p.aliasAddresses network) canonical).addresses.toList) : ∃ u, sources u ∧
        (Path.EndsIn (u.directories ++ [u.fileName]) e.1 ∨ e.1 = u.contract) ∧ e.2 = u.address := by
    rw [ImportTable.addresses_ofPlacements_nil] at he
    obtain ⟨entry, hentry, rfl⟩ := List.mem_map.1 (Collection.mem_ofList he)
    obtain ⟨c, hc, haddress, goesBy⟩ := Project.exists_of_mem_aliasAddresses hentry
    obtain ⟨u, hu, stands⟩ := mirrors c hc
    obtain ⟨hname, hnetwork⟩ := named u hu
    rw [← hnetwork, stands.address] at haddress
    exact ⟨u, hu, endsIn_or_eq_of_goesBy stands hname goesBy, (Option.some.inj haddress).symm⟩
  have leads : Path.EndsIn (s.directories ++ [t.contract.toList])
      (Path.absolute (p.location s.location) t.contract) :=
    Path.absolute_endsIn (by simp [Source.directories]) (Source.plain_steps (named s hs).1)
      (Project.endsIn_location (named s hs).1) hplain
  refine ImportTable.resolve_of_name ?_ ?_ ?_
  · -- next to the importing source no file has a name without extension
    intro hkey
    obtain ⟨e, he, hk⟩ := List.mem_map.1 hkey
    have hk : e.1 = Path.absolute (p.location s.location) t.contract := hk
    obtain ⟨u, hu, hends | hname, -⟩ := entries e he
    · rw [hk] at hends
      exact Source.not_endsIn_fileName (named u hu).1 (named t ht).1 leads hends
    · have hmem := Path.slash_mem_of_endsIn (by simp [Source.directories]) leads
      rw [← hk, hname] at hmem
      exact (plain_of_isName (named u hu).1).slash hmem
  · -- the contract of that name has an address on the network, and is entered by its name too
    obtain ⟨c, hc, hname⟩ := List.mem_map.1 there
    obtain ⟨u, hu, stands⟩ := mirrors c hc
    have haddress := stands.address
    rw [(named u hu).2] at haddress
    obtain ⟨entry, hentry, hk⟩ := List.mem_map.1 (Project.name_mem_aliasAddresses hc haddress)
    rw [ImportTable.addresses_ofPlacements_nil, Collection.mem_keys_ofList, List.map_map]
    refine List.mem_map.2 ⟨entry, hentry, ?_⟩
    have hk : entry.1 = t.contract := hk.trans hname
    show Path.clean entry.1 = t.contract
    rw [hk, Path.clean_of_plain hplain]
  · -- an entry under this name is no path, so it is that of the one source so named
    intro e he hk
    obtain ⟨u, hu, hends | hname, haddress⟩ := entries e he
    · have hmem := Path.slash_mem_of_endsIn (by simp [Source.directories]) hends
      rw [hk] at hmem
      exact absurd hmem hslash
    · rw [haddress, distinct u t hu ht (hname.symm.trans hk)]

end Mirrors

/-! ### Installed sources -/

/-- The root leads to this source, and its contract is found. -/
structure Reached (gateways : Gateways) (root u : Source) : Prop where
  reachable : Reachable gateways none root u
  found : ∃ p, gateways.Finds u p

theorem canonicalNames_eq_empty {p : Project}
    (h : ∀ c ∈ p.manifest.contracts.toList, c.canonical = none) : p.canonicalNames = .empty := by
  have hnone : p.manifest.contracts.toList.filterMap (fun c =>
      (Canonical.target? c).map fun canonical => (c.name, canonical)) = [] := by
    refine List.filterMap_eq_nil_iff.2 fun c hc => ?_
    simp [Canonical.target?, Canonical.canonical, h c hc]
  rw [Project.canonicalNames, hnone]
  rfl

variable [Storage σ]

/-- Nothing has been added to the project yet, and where what a source leads to would be installed
there is no file. -/
structure New (gateways : Gateways) (root : Source) (i : Installation σ) : Prop where
  contracts : i.project.manifest.contracts = .empty
  dependencies : i.project.manifest.dependencies = .empty
  files : ∀ t, Reachable gateways none root t →
    Storage.contains i.storage (i.project.pathOf t.location) = false

/-- All that contracts import is there, in contracts of different names that import directly. -/
structure Complete (gateways : Gateways) (root : Source) : Prop where
  found : ∀ s p, Reachable gateways none root s → gateways.Finds s p →
    ∀ t ∈ imports none s p, ∃ q, gateways.Finds t q
  distinct : ∀ s t, Reachable gateways none root s → Reachable gateways none root t →
    s.contract = t.contract → s = t
  direct : ∀ t p, Reachable gateways none root t → gateways.Finds t p → p.Direct

section New

variable {permits : Nat} {i : Installation σ} {s : Fetching σ} {root t : Source}
  {p : Cadence.Program} (leads : Leads gateways none permits (.start (.own root) i) s)
  (ended : s.fetches = 0) (ok : s.failures = [])

include leads ended ok

theorem mem_keys_of_reachable (reachable : Reachable gateways none root t)
    (found : gateways.Finds t p) :
    t.contract ∈ s.installation.project.manifest.contracts.keys := by
  rw [(mem_keys_of_leads leads (written_of_failures gateways ok) t.contract).2]
  exact .inr ⟨_, (mem_log_iff_reachable leads ended ok).2 ⟨t, reachable, rfl⟩, ⟨p, found⟩, rfl⟩

variable (new : New gateways root i)

include new

/-- The contracts that a call leaves in a new project stand for what it has found. -/
theorem New.exists_standsFor :
    ∀ c ∈ s.installation.project.manifest.contracts.toList, ∃ u,
      Reached gateways root u ∧ StandsFor c u := by
  intro c hc
  rw [project_of_leads leads (written_of_failures gateways ok), addDependencies_eq,
    new.contracts] at hc
  obtain ⟨d, hd, rfl⟩ := List.mem_map.1 (Collection.mem_ofList hc)
  obtain ⟨t, ht, program, found, rfl⟩ := mem_dependenciesOf.1 hd
  obtain ⟨o, ho, rfl⟩ := List.mem_map.1 ht
  obtain ⟨u, hu, rfl⟩ := (mem_log_iff_reachable leads ended ok).1 ho
  have canonical : canonicalOf i.project u.contract = none := by
    rw [canonicalOf, new.dependencies]
    rfl
  refine ⟨u, ⟨hu, program, found⟩, ?_⟩
  rw [mirror_dependency]
  exact ⟨rfl, rfl, canonical, address?_fetchedAliases u⟩

theorem New.read (separate : Storage.Separate σ (Touched gateways root i.project))
    (reachable : Reachable gateways none root t) (found : gateways.Finds t p) :
    s.installation.project.read s.installation.storage t.location =
      .ok (Utf8.encode p.unprocessed) := by
  have places := places_of_leads leads (written_of_failures gateways ok) separate
    (filed_of_free fun u _ hu _ => new.files u hu)
  have settled := (mem_log_iff_reachable leads ended ok).2 ⟨t, reachable, rfl⟩
  rw [Project.read, pathOf_of_path places.filed.path]
  exact places.there ⟨.own t, .ok ()⟩ settled p found

/-- What a source imports resolves, after a call into a new project, to where it imports it from. -/
theorem New.resolves (complete : Complete gateways root)
    (reachable : Reachable gateways none root t) (found : gateways.Finds t p)
    (canonical : Collection (String × String)) : ∀ r ∈ p.deployedImports,
      (ImportTable.ofPlacements [] (s.installation.project.aliasAddresses root.network)
        canonical).resolve (s.installation.project.location t.location) r.2 = .ok r.1 := by
  rintro ⟨address, name⟩ hr
  have hmem : (⟨t.network, address, name⟩ : Source) ∈ imports none t p :=
    List.mem_map.2 ⟨(address, name), hr, rfl⟩
  have hreach := reachable.trans (reachable_of_mem_imports found hmem)
  obtain ⟨q, hq⟩ := complete.found t p reachable found _ hmem
  have named (u : Source) (hu : Reached gateways root u) :
      Cadence.isName u.contract ∧ u.network = root.network := by
    obtain ⟨hu, q, hq⟩ := hu
    exact ⟨isName_of_finds hq, network_of_reachable hu⟩
  have distinct (u v : Source) (hu : Reached gateways root u) (hv : Reached gateways root v) :
      u.contract = v.contract → u = v := complete.distinct u v hu.reachable hv.reachable
  have h := resolve_of_mirrors (new.exists_standsFor leads ended ok) named distinct canonical
    ⟨reachable, p, found⟩ ⟨hreach, q, hq⟩ (mem_keys_of_reachable leads ended ok hreach hq)
  exact h

end New

/-- In a new project, what a call has installed is read with its imports by name, and on the network
of the call these lead to what the deployed code imports from where. This holds whatever the order
of the fetches; `add` takes one of these orders. -/
theorem exists_deployedImports_of_reachable (root : Source) (permits : Nat) (i : Installation σ)
    (new : New gateways root i) (complete : Complete gateways root)
    (separate : Storage.Separate σ (Touched gateways root i.project)) :
    (∀ s, Leads gateways none permits (.start (.own root) i) s → s.fetches = 0 →
      s.result = .ok () → ∀ t p, Reachable gateways none root t → gateways.Finds t p →
      ∃ contents q r,
        s.installation.project.read s.installation.storage t.location = .ok contents ∧
        Cadence.Program.parse contents [] (s.installation.project.location t.location) = .ok q ∧
        (ImportTable.ofPlacements [] (s.installation.project.aliasAddresses root.network)
          s.installation.project.canonicalNames).replace q = (r, .ok ()) ∧
        r.deployedImports = p.deployedImports) ∧
    ∃ s, Leads gateways none permits (.start (.own root) i) s ∧ s.fetches = 0 ∧
      add gateways none root.contract root i = (s.installation, s.result) := by
  refine ⟨fun s leads ended result t p reachable found => ?_,
    exists_leads_of_add gateways none permits (.own root) i⟩
  have ok := Fetching.result_eq_ok_iff.1 result
  obtain ⟨⟨code, location, parsed⟩, -⟩ := found.exists_parse
  obtain ⟨ps, made⟩ := Cadence.Program.exists_madeOf_of_parse parsed
  have hcanonical : s.installation.project.canonicalNames = .empty :=
    canonicalNames_eq_empty fun c hc => by
      obtain ⟨u, -, stands⟩ := new.exists_standsFor leads ended ok c hc
      exact stands.canonical
  obtain ⟨q, r, hq, hr, hdeployed⟩ := ImportTable.replace_of_unprocessed made
    (complete.direct t p reachable found) hcanonical []
    (s.installation.project.location t.location)
    (new.resolves leads ended ok complete reachable found s.installation.project.canonicalNames)
  exact ⟨_, q, r, new.read leads ended ok separate reachable found, hq, hr, hdeployed⟩

theorem direct_linked : ∀ t ∈ [sampleSource 1 "A", sampleSource 2 "B"], ∀ p,
    linkedGateways.Finds t p → p.Direct := by
  have evaluated : [sampleSource 1 "A", sampleSource 2 "B"].all fun t =>
      ((linkedGateways.locate t).toOption.bind id).all fun p => decide p.Direct := by
    decide +kernel
  intro t ht p found
  have h := List.all_eq_true.1 evaluated t ht
  rw [Gateways.locate_eq_some_iff.2 found] at h
  exact of_decide_eq_true h

theorem complete_linked : Complete linkedGateways (sampleSource 1 "A") := by
  obtain ⟨p, q, hp, hq, -⟩ := exists_locate_linked
  constructor
  · intro s r hs found t ht
    rcases reachable_linked (hs.trans (reachable_of_mem_imports found ht)) with rfl | rfl
    · exact ⟨p, Gateways.locate_eq_some_iff.1 hp⟩
    · exact ⟨q, Gateways.locate_eq_some_iff.1 hq⟩
  · intro s t hs ht hname
    rcases reachable_linked hs with rfl | rfl <;> rcases reachable_linked ht with rfl | rfl
    · rfl
    · exact absurd hname (by decide)
    · exact absurd hname (by decide)
    · rfl
  · intro t r ht found
    exact direct_linked t (List.mem_pair.2 (reachable_linked ht)) r found

theorem exists_deployedImports_of_linked : ∃ j contents q r,
    add linkedGateways none "A" (sampleSource 1 "A") sampleInstallation = (j, .ok ()) ∧
      j.project.read j.storage (sampleSource 1 "A").location = .ok contents ∧
      Cadence.Program.parse contents []
        (j.project.location (sampleSource 1 "A").location) = .ok q ∧
      (ImportTable.ofPlacements [] (j.project.aliasAddresses emulator)
        j.project.canonicalNames).replace q = (r, .ok ()) ∧
      r.deployedImports = [(.ofNat 2, "B")] := by
  obtain ⟨p, -, hp, -, himports, -⟩ := exists_locate_linked
  obtain ⟨every, s, leads, ended, hadd⟩ := exists_deployedImports_of_reachable (sampleSource 1 "A")
    16 sampleInstallation ⟨rfl, rfl, fun _ _ => rfl⟩ complete_linked separate_linked
  have ok : s.result = .ok () := Fetching.result_eq_ok_iff.2 (failures_linked leads)
  obtain ⟨contents, q, r, hread, hparse, hreplace, hdeployed⟩ :=
    every s leads ended ok _ p .root (Gateways.locate_eq_some_iff.1 hp)
  rw [ok] at hadd
  exact ⟨s.installation, contents, q, r, hadd, hread, hparse, hreplace,
    hdeployed.trans himports⟩

end Installation

end ContractProject
