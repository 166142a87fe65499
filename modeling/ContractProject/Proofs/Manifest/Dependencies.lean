import ContractProject.Proofs.Manifest.ReadBack

/-!
Adding a dependency to a manifest. The contracts that stand for dependencies follow the project's
own ones in the order of the dependencies. One with a name that no own contract has is added to them
as reading would add it, so a manifest that was read stays one that is read back.
-/

namespace ContractProject

/-- The contract that stands for a dependency. -/
def Dependency.mirror (d : Dependency) : Contract := d.toContract d.source.network d.aliases

@[simp] theorem Dependency.name_mirror (d : Dependency) : d.mirror.name = d.name := rfl

@[simp] theorem Dependency.isDependency_mirror (d : Dependency) : d.mirror.isDependency = true :=
  rfl

namespace Manifest

open Document

/-- The names that contracts of the project's own have. -/
def ownNames (m : Manifest) : List String := m.ownContracts.map Contract.name

/-- Adds a dependency and the contract that stands for it. -/
def withDependency (m : Manifest) (d : Dependency) : Manifest :=
  { m with
    contracts := m.contracts.insert d.mirror
    dependencies := m.dependencies.insert d }

variable {m : Manifest} {d : Dependency}

/-! ### Own contracts -/

/-- Only an own contract with the name of the dependency is lost. -/
theorem ownContracts_withDependency (names : m.contracts.keys.Nodup) (d : Dependency) :
    (m.withDependency d).ownContracts = m.ownContracts.filter (·.name ≠ d.name) :=
  filter_put_of_neg rfl names

/-- Contracts with distinct names are written under them, each of the project's own. -/
theorem mem_sections_contracts (names : m.contracts.keys.Nodup) :
    ("contracts", .object (m.ownContracts.map fun c => (c.name, contractJson c))) ∈ m.sections := by
  have hnames : ((m.ownContracts.map fun c => (c.name, contractJson c)).map Prod.fst).Nodup := by
    rw [List.map_map]
    exact names.sublist (List.filter_sublist.map _)
  rw [← Json.ofFields_of_nodup hnames, sections]
  simp

theorem nodup_keys_withDependency (names : m.contracts.keys.Nodup) (d : Dependency) :
    (m.withDependency d).contracts.keys.Nodup :=
  nodup_put names

/-! ### Contracts for dependencies -/

/-- The contracts for dependencies are those of the dependencies whose names are free, in order. -/
theorem toList_withDependencies (contracts : Contracts) {dependencies : Dependencies}
    (names : dependencies.keys.Nodup) :
    (withDependencies contracts dependencies).toList = contracts.toList ++
      (dependencies.toList.filter fun d => d.name ∉ contracts.keys).map Dependency.mirror := by
  obtain ⟨dependencies⟩ := dependencies
  unfold withDependencies
  induction dependencies generalizing contracts with
  | nil => simp
  | cons d dependencies ih =>
    obtain ⟨hd, names⟩ : d.name ∉ dependencies.map key ∧ (dependencies.map key).Nodup :=
      List.nodup_cons.1 names
    rw [List.foldl_cons]
    by_cases htaken : d.name ∈ contracts.keys
    · rw [if_pos (Collection.contains_iff.2 htaken), ih contracts names,
        List.filter_cons_of_neg (by simpa using htaken)]
    · have hput : (contracts.insert d.mirror).toList = contracts.toList ++ [d.mirror] :=
        put_of_not_mem htaken
      have hkeys : (contracts.insert d.mirror).keys = contracts.keys ++ [d.name] := by
        rw [Collection.keys, hput, List.map_append]
        rfl
      -- no later dependency has this name, so its contract takes no name from them
      have hfilter : (dependencies.filter fun e => e.name ∉ (contracts.insert d.mirror).keys) =
          dependencies.filter fun e => e.name ∉ contracts.keys := by
        refine List.filter_congr fun e he => ?_
        have hne : e.name ≠ d.name := fun h => hd (h ▸ List.mem_map_of_mem (f := key) he)
        simp [hkeys, hne]
      rw [if_neg fun h => htaken (Collection.contains_iff.1 h),
        List.filter_cons_of_pos (by simpa using htaken), List.map_cons]
      refine (ih (contracts.insert d.mirror) names).trans ?_
      rw [hfilter, hput, List.append_assoc]
      rfl

/-- Reading would add the contract for a dependency where it is added. -/
theorem withDependencies_insert {contracts : Contracts} {dependencies : Dependencies}
    (names : dependencies.keys.Nodup) (new : d.name ∉ contracts.keys) :
    withDependencies contracts (dependencies.insert d) =
      (withDependencies contracts dependencies).insert d.mirror := by
  let free : Dependency → Bool := fun d => d.name ∉ contracts.keys
  have hfree : (put d dependencies.toList).filter free = put d (dependencies.toList.filter free) :=
    filter_put_of_pos (fun x (hx : x.name = d.name) => by simpa [free, hx] using new) _
  have hmirror (ds : List Dependency) :
      put d.mirror (ds.map Dependency.mirror) = (put d ds).map Dependency.mirror :=
    put_map Dependency.mirror (fun _ => rfl) d ds
  have hinserted : (dependencies.insert d).keys.Nodup := nodup_put names
  have h : (withDependencies contracts (dependencies.insert d)).toList =
      put d.mirror (withDependencies contracts dependencies).toList := by
    rw [toList_withDependencies contracts hinserted, toList_withDependencies contracts names,
      put_append_of_not_mem new, hmirror, ← hfree]
    rfl
  exact congrArg Collection.mk h

theorem Sound.contracts_withDependency (sound : Sound m)
    (new : d.name ∉ m.ownNames) : (m.withDependency d).contracts =
      withDependencies ⟨m.ownContracts⟩ (m.withDependency d).dependencies :=
  (congrArg (Collection.insert · d.mirror) sound.contracts).trans
    (withDependencies_insert sound.dependency_names new).symm

/-- A dependency with a name that no own contract has changes none of these. -/
theorem Sound.ownContracts_withDependency (sound : Sound m)
    (new : d.name ∉ m.ownNames) :
    (m.withDependency d).ownContracts = m.ownContracts := by
  rw [ownContracts, sound.contracts_withDependency new]
  exact filter_withDependencies (fun c hc => by simpa using (List.mem_filter.1 hc).2) _

theorem Sound.withDependency (sound : Sound m) (new : d.name ∉ m.ownNames)
    (entry : (entryOfDependency d).WellFormed)
    (source : Source.read d.source.toText = .ok d.source) : Sound (m.withDependency d) := by
  have hown := sound.ownContracts_withDependency new
  exact {
    contracts := by rw [hown]; exact sound.contracts_withDependency new
    contract_names := hown ▸ sound.contract_names
    contract := hown ▸ sound.contract
    dependency_names := nodup_put sound.dependency_names
    dependency := fun e he => by
      rcases mem_put he with rfl | he
      · exact entry
      · exact sound.dependency e he
    source := fun e he => by
      rcases mem_put he with rfl | he
      · exact source
      · exact sound.source e he
    network_names := sound.network_names
    account_names := sound.account_names
    account := sound.account
    deployments := sound.deployments }

/-! ### Entities that name themselves -/

theorem selfCanonical?_eq_none_iff : m.selfCanonical? = none ↔
    (∀ c ∈ m.contracts.toList, Canonical.target? c ≠ some c.name) ∧
      ∀ d ∈ m.dependencies.toList, Canonical.target? d ≠ some d.name := by
  have hnone {α : Type} [Canonical α] (entities : List α) : Canonical.selfAlias? entities = none ↔
      ∀ a ∈ entities, Canonical.target? a ≠ some (Canonical.name a) := by
    simp [Canonical.selfAlias?]
  unfold selfCanonical?
  split
  · next c hc =>
    have hself : Canonical.selfAlias? m.contracts.toList ≠ none := by simp [hc]
    rw [ne_eq, hnone] at hself
    exact ⟨nofun, fun h => absurd h.1 hself⟩
  · next hc =>
    rw [Option.map_eq_none_iff, hnone]
    exact ⟨fun h => ⟨(hnone _).1 hc, h⟩, fun h => h.2⟩

theorem selfCanonical?_withDependency (h : m.selfCanonical? = none)
    (other : Canonical.target? d ≠ some d.name) : (m.withDependency d).selfCanonical? = none := by
  rw [selfCanonical?_eq_none_iff] at h ⊢
  constructor
  · intro c hc
    rcases mem_put hc with rfl | hc
    · exact other
    · exact h.1 c hc
  · intro e he
    rcases mem_put he with rfl | he
    · exact other
    · exact h.2 e he

/-! ### Numbers -/

section Numbers

variable {β : Type} {entries : List β} {name : β → String} {json : β → Json}

theorem numbers_section (h : ∀ e ∈ entries, (json e).numbers = []) :
    (Json.ofFields (entries.map fun e => (name e, json e))).numbers = [] := by
  refine List.eq_nil_iff_forall_not_mem.2 fun n hn => ?_
  obtain ⟨f, hf, hn⟩ := Json.mem_numbers_object.1 hn
  obtain ⟨e, he, rfl⟩ := List.mem_map.1 ((mem_foldl_put _ hf).resolve_right List.not_mem_nil)
  rw [h e he] at hn
  cases hn

theorem numbers_aliasesJson (aliases : Aliases) : (aliasesJson aliases).numbers = [] :=
  numbers_section fun _ _ => rfl

theorem numbers_canonicalFields (fields : List (String × Json)) (canonical : Option String)
    (h : (Json.object fields).numbers = []) :
    (Json.object (fields ++ canonicalFields canonical)).numbers = [] := by
  refine List.eq_nil_iff_forall_not_mem.2 fun n hn => ?_
  obtain ⟨f, hf, hn⟩ := Json.mem_numbers_object.1 hn
  rcases List.mem_append.1 hf with hf | hf
  · have hn : n ∈ (Json.object fields).numbers := Json.mem_numbers_object.2 ⟨f, hf, hn⟩
    rw [h] at hn
    cases hn
  · obtain ⟨text, -, rfl⟩ := List.mem_map.1 hf
    cases hn

theorem numbers_contractJson (c : Contract) : (contractJson c).numbers = [] := by
  unfold contractJson
  split
  · rfl
  · exact numbers_canonicalFields _ _ (by simp [Json.numbers, Json.fieldNumbers,
      numbers_aliasesJson])

theorem numbers_dependencyJson (d : Dependency) : (dependencyJson d).numbers = [] :=
  numbers_canonicalFields _ _ (by simp [Json.numbers, Json.fieldNumbers, numbers_aliasesJson])

/-- Contracts and dependencies have no numbers in them. -/
theorem doubles_of_eq {m' : Manifest} (doubles : m.toJson.DoublesReadBack)
    (networks : m'.networks = m.networks) (accounts : m'.accounts = m.accounts)
    (deployments : m'.deployments = m.deployments) : m'.toJson.DoublesReadBack := by
  intro x hx
  rw [toJson_eq_sections] at doubles hx
  obtain ⟨f, hf, hx⟩ := Json.mem_numbers_object.1 hx
  simp only [sections, List.append_assoc, networks, accounts, deployments] at hf
  rcases List.mem_append.1 hf with hf | hf
  · have hnone : f.2.numbers = [] := by
      rcases List.mem_pair.1 hf with rfl | rfl
      · exact numbers_section fun c _ => numbers_contractJson c
      · exact numbers_section fun d _ => numbers_dependencyJson d
    rw [hnone] at hx
    cases hx
  · refine doubles x (Json.mem_numbers_object.2 ⟨f, ?_, hx⟩)
    simp only [sections, List.append_assoc]
    exact List.mem_append_right _ hf

end Numbers

end Manifest

end ContractProject
