import ContractProject.Proofs.Installation.Outcome
import ContractProject.Proofs.Manifest.Dependencies

/-!
What calls add to the project. Each target that is found becomes a dependency with the contract that
stands for it, under the name that it was given; what is added depends on these names and not on how
far the call has come. Under each name stands what was added last.
-/

namespace ContractProject

theorem CoreContract.address?_aliases (c : CoreContract) (network : String) :
    c.aliases.address? network = c.address? network := by
  have haliases : c.aliases =
      ⟨[⟨emulator, c.onEmulator⟩, ⟨testnet, c.onTestnet⟩, ⟨mainnet, c.onMainnet⟩]⟩ := rfl
  rw [haliases, Aliases.address?, Collection.get?, CoreContract.address?]
  simp only [lookup?_cons, lookup?_nil, key, eq_comm (a := network)]
  split
  · rfl
  · split
    · rfl
    · split <;> rfl

namespace Installation

/-- What is fetched from an address is known to be there. -/
theorem address?_fetchedAliases (s : Source) :
    (fetchedAliases s).address? s.network = some s.address := by
  unfold fetchedAliases
  split
  · next core hcore =>
    have := List.find?_some hcore
    simp only [Bool.and_eq_true, decide_eq_true_eq] at this
    rw [core.address?_aliases, this.2]
  · simp [Aliases.add, Collection.insertNew, Collection.contains, Collection.get?, Collection.empty,
      Aliases.address?, lookup?_cons, key]

theorem isEmpty_fetchedAliases (s : Source) : (fetchedAliases s).isEmpty = false := by
  rw [Bool.eq_false_iff]
  intro hempty
  have hnil : (fetchedAliases s).toList = [] := List.isEmpty_iff.1 hempty
  have haddress := address?_fetchedAliases s
  simp [Aliases.address?, Collection.get?, hnil] at haddress

/-- The contract that stands for what was fetched has its aliases. -/
theorem mirror_dependency (p : Project) (name : String) (s : Source) (code : Bytes) :
    (dependency p name s code).mirror =
      ⟨name, s.location, fetchedAliases s, canonicalOf p name, true⟩ := by
  rw [Dependency.mirror, Dependency.toContract, dependency, isEmpty_fetchedAliases]
  rfl

/-! ### What is added -/

/-- What is written of the contract at a source, none if there is no such contract. -/
def fetched? (gateways : Gateways) (s : Source) : Option Bytes :=
  match gateways.locate s with
  | .ok (some p) => some (Utf8.encode p.unprocessed)
  | _ => none

/-- The dependencies that these targets become, where they are found. -/
def dependenciesOf (gateways : Gateways) (p : Project) (targets : List Target) : List Dependency :=
  targets.filterMap fun t => (fetched? gateways t.source).map (dependency p t.name t.source)

def addDependencies (p : Project) (ds : List Dependency) : Project := ds.foldl addDependency p

variable {gateways : Gateways} {p q : Project} {t : Target} {targets : List Target}
  {d : Dependency} {ds : List Dependency} {n : String}

theorem fetched?_of_finds {program : Cadence.Program} {s : Source}
    (found : gateways.Finds s program) :
    fetched? gateways s = some (Utf8.encode program.unprocessed) := by
  rw [← Gateways.locate_eq_some_iff] at found
  rw [fetched?, found]

theorem fetched?_eq_none_iff {s : Source} :
    fetched? gateways s = none ↔ ¬ ∃ program, gateways.Finds s program := by
  constructor
  · rintro hnone ⟨program, found⟩
    rw [fetched?_of_finds found] at hnone
    cases hnone
  · intro absent
    unfold fetched?
    split
    · next program hp => exact absurd ⟨program, Gateways.locate_eq_some_iff.1 hp⟩ absent
    · rfl

theorem fetched?_eq_some_iff {s : Source} {code : Bytes} : fetched? gateways s = some code ↔
    ∃ program, gateways.Finds s program ∧ code = Utf8.encode program.unprocessed := by
  constructor
  · intro hcode
    by_cases found : ∃ program, gateways.Finds s program
    · obtain ⟨program, found⟩ := found
      rw [fetched?_of_finds found] at hcode
      exact ⟨program, found, (Option.some.inj hcode).symm⟩
    · rw [fetched?_eq_none_iff.2 found] at hcode
      cases hcode
  · rintro ⟨program, found, rfl⟩
    exact fetched?_of_finds found

theorem mem_dependenciesOf : d ∈ dependenciesOf gateways p targets ↔
    ∃ t ∈ targets, ∃ program, gateways.Finds t.source program ∧
      d = dependency p t.name t.source (Utf8.encode program.unprocessed) := by
  rw [dependenciesOf, List.mem_filterMap]
  refine exists_congr fun t => and_congr_right fun _ => ?_
  rw [Option.map_eq_some_iff]
  constructor
  · rintro ⟨code, hcode, rfl⟩
    obtain ⟨program, found, rfl⟩ := fetched?_eq_some_iff.1 hcode
    exact ⟨program, found, rfl⟩
  · rintro ⟨program, found, rfl⟩
    exact ⟨_, fetched?_of_finds found, rfl⟩

theorem dependenciesOf_append (p : Project) (first rest : List Target) :
    dependenciesOf gateways p (first ++ rest) =
      dependenciesOf gateways p first ++ dependenciesOf gateways p rest :=
  List.filterMap_append ..

theorem addDependencies_eq (p : Project) (ds : List Dependency) :
    addDependencies p ds = { p with
      manifest := { p.manifest with
        contracts := (ds.map Dependency.mirror).foldl Collection.insert p.manifest.contracts
        dependencies := ds.foldl Collection.insert p.manifest.dependencies } } := by
  induction ds generalizing p with
  | nil => rfl
  | cons d ds ih => exact ih (addDependency p d)

theorem path_addDependencies (p : Project) (ds : List Dependency) :
    (addDependencies p ds).path = p.path := by
  rw [addDependencies_eq]

theorem dependency?_addDependency (p : Project) (d : Dependency) (n : String) :
    (addDependency p d).manifest.dependencies.get? n =
      if d.name = n then some d else p.manifest.dependencies.get? n :=
  Collection.get?_insert p.manifest.dependencies d n

theorem contract?_addDependency (p : Project) (d : Dependency) (n : String) :
    (addDependency p d).manifest.contracts.get? n =
      if d.name = n then some d.mirror else p.manifest.contracts.get? n :=
  Collection.get?_insert p.manifest.contracts d.mirror n

/-- A dependency that takes over the canonical name leaves all canonical names as they are. -/
theorem canonicalOf_addDependency (h : d.canonical = canonicalOf p d.name) (name : String) :
    canonicalOf (addDependency p d) name = canonicalOf p name := by
  rw [canonicalOf, dependency?_addDependency]
  by_cases hname : d.name = name
  · subst hname
    rw [if_pos rfl, Option.bind_some, h]
  · rw [if_neg hname, canonicalOf]

theorem canonicalOf_addDependencies (h : ∀ d ∈ ds, d.canonical = canonicalOf p d.name)
    (name : String) : canonicalOf (addDependencies p ds) name = canonicalOf p name := by
  induction ds generalizing p with
  | nil => rfl
  | cons d ds ih =>
    have hd := canonicalOf_addDependency (h d List.mem_cons_self)
    have hds : ∀ e ∈ ds, e.canonical = canonicalOf (addDependency p d) e.name := by
      intro e he
      rw [hd, h e (List.mem_cons_of_mem d he)]
    exact (ih hds).trans (hd name)

/-- Only the canonical names of a project make a difference to what is added. -/
theorem dependenciesOf_congr (h : ∀ name, canonicalOf p name = canonicalOf q name)
    (targets : List Target) :
    dependenciesOf gateways p targets = dependenciesOf gateways q targets := by
  have hsame (name : String) (s : Source) : dependency p name s = dependency q name s := by
    funext code
    rw [dependency, dependency, h]
  simp only [dependenciesOf, hsame]

/-- What was added before makes no difference to what is added next. -/
theorem dependenciesOf_addDependencies (p : Project) (first rest : List Target) :
    dependenciesOf gateways (addDependencies p (dependenciesOf gateways p first)) rest =
      dependenciesOf gateways p rest := by
  refine dependenciesOf_congr (canonicalOf_addDependencies fun d hd => ?_) rest
  obtain ⟨t, -, program, -, rfl⟩ := mem_dependenciesOf.1 hd
  rfl

/-- What two lists of targets become is added one after the other. -/
theorem addDependencies_append (p : Project) (first rest : List Target) :
    addDependencies p (dependenciesOf gateways p (first ++ rest)) =
      addDependencies (addDependencies p (dependenciesOf gateways p first))
        (dependenciesOf gateways (addDependencies p (dependenciesOf gateways p first)) rest) := by
  rw [dependenciesOf_addDependencies, dependenciesOf_append, addDependencies, List.foldl_append]
  rfl

/-- Under each name stands what was added last, or what was there. -/
theorem get?_addDependencies (p : Project) (ds : List Dependency) (n : String) :
    (∃ d ∈ ds, d.name = n ∧
      (addDependencies p ds).manifest.dependencies.get? n = some d ∧
      (addDependencies p ds).manifest.contracts.get? n = some d.mirror) ∨
    ((∀ d ∈ ds, d.name ≠ n) ∧
      (addDependencies p ds).manifest.dependencies.get? n = p.manifest.dependencies.get? n ∧
      (addDependencies p ds).manifest.contracts.get? n = p.manifest.contracts.get? n) := by
  induction ds generalizing p with
  | nil => exact .inr ⟨by simp, rfl, rfl⟩
  | cons d ds ih =>
    rcases ih (addDependency p d) with ⟨e, he, hname, hd, hc⟩ | ⟨hnone, hd, hc⟩
    · exact .inl ⟨e, List.mem_cons_of_mem d he, hname, hd, hc⟩
    · rw [dependency?_addDependency] at hd
      rw [contract?_addDependency] at hc
      by_cases hname : d.name = n
      · rw [if_pos hname] at hd hc
        exact .inl ⟨d, List.mem_cons_self, hname, hd, hc⟩
      · rw [if_neg hname] at hd hc
        exact .inr ⟨List.forall_mem_cons.2 ⟨hname, hnone⟩, hd, hc⟩

/-! ### Calls -/

variable {σ : Type} [Storage σ] {network : Option String} {permits : Nat} {s : Fetching σ}
  {i j : Installation σ} {first : Target} {r : Except Error Unit}

theorem Visited.project_eq (visited : Visited gateways i t j r)
    (written : t.Found gateways → r = .ok ()) :
    j.project = addDependencies i.project (dependenciesOf gateways i.project [t]) := by
  by_cases found : t.Found gateways
  · obtain rfl := written found
    obtain ⟨program, found⟩ := found
    obtain ⟨storage, recorded⟩ := visited.exists_recorded found
    rw [recorded.added, dependenciesOf, List.filterMap_cons, fetched?_of_finds found]
    rfl
  · rw [(visited.same found).1, dependenciesOf, List.filterMap_cons, fetched?_eq_none_iff.2 found]
    rfl

/-- What a call adds to the project, if what it finds can be written. -/
theorem project_of_leads (leads : Leads gateways network permits (.start first i) s)
    (written : Written gateways s.log) : s.installation.project =
      addDependencies i.project (dependenciesOf gateways i.project (s.log.map Outcome.target)) := by
  refine holds_of_leads (fun i log j => Written gateways log → j.project =
    addDependencies i.project (dependenciesOf gateways i.project (log.map Outcome.target)))
    ?_ ?_ ?_ leads written
  · exact fun project _ _ => project
  · intro i k j earlier later hearlier hlater written
    rw [written_append] at written
    rw [hlater written.2, hearlier written.1, List.map_append, addDependencies_append]
  · exact fun _ visited written => visited.project_eq (written_singleton.1 written)

theorem records_iff {log : List Outcome} (p : Project) : Records gateways log n ↔
    ∃ d ∈ dependenciesOf gateways p (log.map Outcome.target), d.name = n := by
  simp only [Records, mem_dependenciesOf]
  constructor
  · rintro ⟨o, ho, ⟨program, found⟩, rfl⟩
    exact ⟨_, ⟨o.target, List.mem_map_of_mem ho, program, found, rfl⟩, rfl⟩
  · rintro ⟨_, ⟨t, ht, program, found, rfl⟩, rfl⟩
    obtain ⟨o, ho, rfl⟩ := List.mem_map.1 ht
    exact ⟨o, ho, ⟨program, found⟩, rfl⟩

/-- What a call leaves under each name. -/
theorem entry_of_leads (leads : Leads gateways network permits (.start first i) s)
    (written : Written gateways s.log) (n : String) :
    (∃ o ∈ s.log, ∃ program, gateways.Finds o.target.source program ∧ o.target.name = n ∧
      s.installation.project.manifest.dependencies.get? n =
        some (dependency i.project n o.target.source (Utf8.encode program.unprocessed)) ∧
      s.installation.project.manifest.contracts.get? n =
        some ⟨n, o.target.source.location, fetchedAliases o.target.source,
          canonicalOf i.project n, true⟩) ∨
    (¬ Records gateways s.log n ∧
      s.installation.project.manifest.dependencies.get? n =
        i.project.manifest.dependencies.get? n ∧
      s.installation.project.manifest.contracts.get? n = i.project.manifest.contracts.get? n) := by
  rw [records_iff i.project, project_of_leads leads written]
  rcases get?_addDependencies i.project
    (dependenciesOf gateways i.project (s.log.map Outcome.target)) n with
    ⟨d, hd, rfl, hdependency, hcontract⟩ | ⟨hnone, hsame⟩
  · obtain ⟨t, ht, program, found, rfl⟩ := mem_dependenciesOf.1 hd
    obtain ⟨o, ho, rfl⟩ := List.mem_map.1 ht
    rw [mirror_dependency] at hcontract
    exact .inl ⟨o, ho, program, found, rfl, hdependency, hcontract⟩
  · refine .inr ⟨?_, hsame⟩
    rintro ⟨d, hd, hname⟩
    exact hnone d hd hname

theorem mem_keys_of_leads (leads : Leads gateways network permits (.start first i) s)
    (written : Written gateways s.log) (n : String) :
    (n ∈ s.installation.project.manifest.dependencies.keys ↔
      n ∈ i.project.manifest.dependencies.keys ∨ Records gateways s.log n) ∧
    (n ∈ s.installation.project.manifest.contracts.keys ↔
      n ∈ i.project.manifest.contracts.keys ∨ Records gateways s.log n) := by
  have recorded : Records gateways s.log n ↔ n ∈ (dependenciesOf gateways i.project
      (s.log.map Outcome.target)).map Dependency.name := by
    rw [records_iff i.project, List.mem_map]
  rw [project_of_leads leads written, addDependencies_eq, recorded]
  constructor
  · rw [Collection.mem_keys_foldl_insert, or_comm]
    rfl
  · rw [Collection.mem_keys_foldl_insert, List.map_map, or_comm]
    rfl

end Installation

end ContractProject
