import ContractProject.Project
import ContractProject.Proofs.Manifest.Dependencies

/-!
Loading what has been saved. Of the contracts only the project's own are written, so it makes no
difference which others there were: a project with fewer own contracts is loaded with these,
followed by the contracts for all dependencies whose names are free.
-/

namespace ContractProject

namespace Project

variable {σ : Type} [Storage σ] {storage : σ} {path : String}

theorem exists_parse_of_load {p : Project} (h : load storage path = .ok p) :
    p.path = path ∧ (∃ bytes, Manifest.parse bytes = .ok p.manifest) ∧
      p.manifest.selfCanonical? = none := by
  obtain ⟨bytes, -, h⟩ := bind_eq_ok_iff.1 h
  obtain ⟨manifest, hparse, h⟩ := bind_eq_ok_iff.1 h
  split at h
  · cases h
  · next hvalid =>
    obtain rfl := Except.ok.inj h
    exact ⟨rfl, ⟨bytes, hparse⟩, hvalid⟩

/-- A sound manifest is loaded from where it has been saved. -/
theorem load_of_sound {m : Manifest} (sound : m.Sound) (doubles : m.toJson.DoublesReadBack)
    (valid : m.selfCanonical? = none) (read : Storage.readAt storage path = .ok m.toBytes) :
    load storage path = .ok ⟨path, m⟩ := by
  refine bind_eq_ok_iff.2 ⟨_, read, bind_eq_ok_iff.2
    ⟨m, Manifest.parse_toBytes_of_sound sound doubles, ?_⟩⟩
  rw [valid]
  rfl

end Project

namespace Manifest

variable {m : Manifest} {own : List Contract}

theorem nodup_keys_withDependencies {contracts : Contracts} (names : contracts.keys.Nodup)
    (dependencies : Dependencies) : (withDependencies contracts dependencies).keys.Nodup := by
  unfold withDependencies
  induction dependencies.toList generalizing contracts with
  | nil => exact names
  | cons d dependencies ih =>
    rw [List.foldl_cons]
    split
    · exact ih names
    · exact ih (nodup_put names)

theorem Sound.nodup_keys_contracts (sound : m.Sound) : m.contracts.keys.Nodup := by
  rw [sound.contracts]
  exact nodup_keys_withDependencies sound.contract_names _

/-! ### Fewer own contracts -/

/-- The manifest with these contracts as its own, and those that reading adds. -/
def withOwn (m : Manifest) (own : List Contract) : Manifest :=
  { m with contracts := withDependencies ⟨own⟩ m.dependencies }

/-- Contracts that stand for dependencies make no difference to what is written. -/
theorem toBytes_of_ownContracts (m : Manifest) {contracts others : Contracts}
    (same : contracts.toList.filter (!·.isDependency) =
      others.toList.filter (!·.isDependency)) :
    ({ m with contracts } : Manifest).toBytes =
      ({ m with contracts := others } : Manifest).toBytes := by
  simp only [toBytes, toText, toJson, ownContracts, same]

theorem ownContracts_withOwn (left : own.Sublist m.ownContracts) :
    (m.withOwn own).ownContracts = own :=
  filter_withDependencies
    (fun c hc => by simpa using (List.mem_filter.1 (left.subset hc)).2) m.dependencies

theorem Sound.withOwn (sound : m.Sound) (left : own.Sublist m.ownContracts) :
    (m.withOwn own).Sound := by
  have hown := ownContracts_withOwn left
  exact {
    contracts := by rw [hown]; rfl
    contract_names := by
      rw [hown]
      exact sound.contract_names.sublist (left.map _)
    contract := by
      rw [hown]
      exact fun c hc => sound.contract c (left.subset hc)
    dependency_names := sound.dependency_names
    dependency := sound.dependency
    source := sound.source
    network_names := sound.network_names
    account_names := sound.account_names
    account := sound.account
    deployments := sound.deployments }

theorem Sound.toList_withOwn (sound : m.Sound) (own : List Contract) :
    (m.withOwn own).contracts.toList = own ++ (m.dependencies.toList.filter fun d =>
      d.name ∉ own.map Contract.name).map Dependency.mirror :=
  toList_withDependencies ⟨own⟩ sound.dependency_names

theorem Sound.selfCanonical?_withOwn (sound : m.Sound) (left : own.Sublist m.ownContracts)
    (valid : m.selfCanonical? = none) : (m.withOwn own).selfCanonical? = none := by
  rw [selfCanonical?_eq_none_iff] at valid ⊢
  refine ⟨fun c hc => ?_, valid.2⟩
  rw [sound.toList_withOwn, List.mem_append] at hc
  rcases hc with hc | hc
  · exact valid.1 c (List.mem_filter.1 (left.subset hc)).1
  · -- a contract for a dependency has its canonical name from that
    obtain ⟨d, hd, rfl⟩ := List.mem_map.1 hc
    exact valid.2 d (List.mem_filter.1 hd).1

end Manifest

end ContractProject
