import ContractProject.CommandLine.Run
import ContractProject.Proofs.Manifest.Loading
import ContractProject.Proofs.Storage

/-!
Removing a contract from a project by a command. Either the command fails and changes no file, or
the project is loaded afterwards without the contract. A dependency that was hidden by a contract of
its name is then stood for by a contract again.
-/

namespace ContractProject.Command

variable {σ : Type} [Storage σ] {storage : σ} {path name : String} {p : Project} {c : Contract}

/-! ### In memory -/

theorem removeContractFrom_of_none (absent : p.manifest.contracts.get? name = none) :
    removeContractFrom p name = .error (.project (.notFound .contract name)) := by
  have hfind : p.manifest.contract name = .error (.notFound .contract name) := by
    rw [Manifest.contract, Collection.find, absent]
  rw [removeContractFrom, hfind]
  rfl

theorem removeContractFrom_of_dependency (there : p.manifest.contracts.get? name = some c)
    (dependency : c.isDependency = true) :
    removeContractFrom p name = .error (.installed name) := by
  have hfind : p.manifest.contract name = .ok c := by
    rw [Manifest.contract, Collection.find, there]
  rw [removeContractFrom, hfind]
  exact if_pos dependency

theorem removeContractFrom_of_own (names : p.manifest.contracts.keys.Nodup)
    (there : p.manifest.contracts.get? name = some c) (own : c.isDependency = false) :
    removeContractFrom p name = .ok { p with
      manifest := { p.manifest with
        contracts := ⟨p.manifest.contracts.toList.filter (key · ≠ name)⟩ } } := by
  have hfind : p.manifest.contract name = .ok c := by
    rw [Manifest.contract, Collection.find, there]
  have hmem : name ∈ p.manifest.contracts.keys := by
    rw [← Collection.contains_iff, Collection.contains, there, Option.isSome_some]
  have hremove : p.manifest.contracts.remove .contract name name =
      .ok ⟨p.manifest.contracts.toList.filter (key · ≠ name)⟩ := by
    rw [Collection.remove, Collection.erase?_of_mem names hmem]
  rw [removeContractFrom, hfind]
  refine (if_neg (by simp [own])).trans ?_
  rw [hremove]
  rfl

/-! ### In files -/

/-- What is written without one contract is what is written of the manifest without this one as its
own. -/
theorem toBytes_filter (m : Manifest) (name : String) :
    ({ m with contracts := ⟨m.contracts.toList.filter (key · ≠ name)⟩ } : Manifest).toBytes =
      (m.withOwn (m.ownContracts.filter (·.name ≠ name))).toBytes := by
  refine m.toBytes_of_ownContracts ((List.filter_comm ..).trans ?_)
  exact (Manifest.ownContracts_withOwn List.filter_sublist).symm

theorem runRemoveContract_of_own {usable : σ → Prop} (loaded : Project.load storage path = .ok p)
    (there : p.manifest.contracts.get? name = some c) (own : c.isDependency = false)
    (doubles : p.manifest.toJson.DoublesReadBack) (start : usable storage)
    (accepts : Storage.Accepts usable path) (separate : Storage.Separate σ (· = path)) :
    ∃ t, runRemoveContract storage path name = .reading t (.ok successSummary) ∧
      Project.load t path =
        .ok ⟨path, p.manifest.withOwn (p.manifest.ownContracts.filter (·.name ≠ name))⟩ := by
  obtain ⟨rfl, ⟨bytes, parsed⟩, valid⟩ := Project.exists_parse_of_load loaded
  have sound := Manifest.sound_of_parse parsed
  have removed := removeContractFrom_of_own sound.nodup_keys_contracts there own
  have left : (p.manifest.ownContracts.filter (·.name ≠ name)).Sublist p.manifest.ownContracts :=
    List.filter_sublist
  obtain ⟨t, hwrite, -⟩ := accepts.write storage
    (p.manifest.withOwn (p.manifest.ownContracts.filter (·.name ≠ name))).toBytes start
  refine ⟨t, ?_, Project.load_of_sound (sound.withOwn left) (Manifest.doubles_of_eq doubles rfl rfl
    rfl) (sound.selfCanonical?_withOwn left valid) (separate.written rfl hwrite)⟩
  have hsave : Storage.writeWithParent storage p.path
      ({ p.manifest with contracts :=
        ⟨p.manifest.contracts.toList.filter (key · ≠ name)⟩ } : Manifest).toBytes = (t, .ok ()) := by
    rw [toBytes_filter, hwrite]
  rw [runRemoveContract, loaded]
  simp only [ofProject, Except.bind, removed, Project.save, hsave]

/-- A contract that is not there, or stands for a dependency, is not removed, and no file is
touched. One of the project's own is: what is loaded afterwards is all as it was but for this
contract, with a contract again for a dependency of its name. Of the numbers in the manifest,
doubles must be read back from their shortest decimals. -/
theorem run_removeContract (web : AccessNode.Transport) {storage : σ} {path : String} {p : Project}
    (loaded : Project.load storage path = .ok p) (name : String) :
    (p.manifest.contracts.get? name = none →
      Invocation.run web storage ⟨path, .removeContract name⟩ =
        .reading storage (.error (.project (.notFound .contract name)))) ∧
    ∀ c, p.manifest.contracts.get? name = some c →
      (c.isDependency = true → Invocation.run web storage ⟨path, .removeContract name⟩ =
        .reading storage (.error (.installed name))) ∧
      (c.isDependency = false → ∀ usable : σ → Prop, usable storage →
        Storage.Accepts usable path → Storage.Separate σ (· = path) →
        p.manifest.toJson.DoublesReadBack →
        ∃ t m, Invocation.run web storage ⟨path, .removeContract name⟩ =
            .reading t (.ok successSummary) ∧
          Project.load t path = .ok ⟨path, m⟩ ∧
          m.dependencies = p.manifest.dependencies ∧ m.networks = p.manifest.networks ∧
          m.accounts = p.manifest.accounts ∧ m.deployments = p.manifest.deployments ∧
          m.ownContracts = p.manifest.ownContracts.filter (·.name ≠ name) ∧
          m.contracts.toList = m.ownContracts ++ (m.dependencies.toList.filter fun d =>
            d.name ∉ m.ownNames).map Dependency.mirror) := by
  have hrun : Invocation.run web storage ⟨path, .removeContract name⟩ =
      runRemoveContract storage path name := rfl
  have hfails {fault : CommandFault} (h : removeContractFrom p name = .error fault) :
      runRemoveContract storage path name = .reading storage (.error fault) := by
    rw [runRemoveContract, loaded]
    simp only [ofProject, Except.bind, h]
  rw [hrun]
  refine ⟨fun absent => hfails (removeContractFrom_of_none absent), fun c there =>
    ⟨fun dependency => hfails (removeContractFrom_of_dependency there dependency),
      fun own usable start accepts separate doubles => ?_⟩⟩
  obtain ⟨t, ht, hload⟩ :=
    runRemoveContract_of_own loaded there own doubles start accepts separate
  obtain ⟨-, ⟨bytes, parsed⟩, -⟩ := Project.exists_parse_of_load loaded
  have left : (p.manifest.ownContracts.filter (·.name ≠ name)).Sublist p.manifest.ownContracts :=
    List.filter_sublist
  have hown := Manifest.ownContracts_withOwn left
  refine ⟨t, _, ht, hload, rfl, rfl, rfl, rfl, hown, ?_⟩
  rw [(Manifest.sound_of_parse parsed).toList_withOwn, Manifest.ownNames, hown]
  rfl

/-- Files in memory with a manifest in which a contract has the name of a dependency, and another
one is an alias of it. -/
def hiddenFiles : MemoryStorage :=
  let manifest : Json := .object [
    ("contracts", .object [("Foo", .string "./Foo.cdc"), ("Bar", .object
      [("source", .string "./Bar.cdc"), ("canonical", .string "Foo")])]),
    ("dependencies", .object [("Baz", .string "testnet://1.Baz"),
      ("Foo", .string "testnet://1.Foo")])]
  .ofFiles [(Manifest.defaultPath, Utf8.encodeString manifest.pretty)] []

def removal (name : String) : Invocation := ⟨Manifest.defaultPath, .removeContract name⟩

/-- The dependency that the contract has hidden comes to light. -/
theorem run_removeContract_of_hidden :
    (removal "Qux").run (fun _ => none) hiddenFiles =
        .reading hiddenFiles (.error (.project (.notFound .contract "Qux"))) ∧
      (removal "Baz").run (fun _ => none) hiddenFiles =
        .reading hiddenFiles (.error (.installed "Baz")) ∧
      ∃ t m, (removal "Foo").run (fun _ => none) hiddenFiles = .reading t (.ok successSummary) ∧
        Project.load t Manifest.defaultPath = .ok ⟨Manifest.defaultPath, m⟩ ∧
        m.contracts.toList.map (fun c => (c.name, c.isDependency)) =
          [("Bar", false), ("Baz", true), ("Foo", true)] := by
  have evaluated : ((Project.load hiddenFiles Manifest.defaultPath).toOption.map fun p =>
      let own := p.manifest.ownContracts.filter (·.name ≠ "Foo")
      (["Qux", "Baz", "Foo"].map fun name =>
          (p.manifest.contracts.get? name).map Contract.isDependency,
        p.manifest.toJson.numbers,
        (own ++ (p.manifest.dependencies.toList.filter fun d =>
          d.name ∉ own.map Contract.name).map Dependency.mirror).map
            fun c => (c.name, c.isDependency))) =
      some ([none, some true, some false], [],
        [("Bar", false), ("Baz", true), ("Foo", true)]) := by
    decide +kernel
  obtain ⟨p, loaded, hp⟩ := exists_ok_of_toOption evaluated
  simp only [Prod.mk.injEq, List.map_cons, List.map_nil, List.cons.injEq, and_true] at hp
  obtain ⟨⟨absent, installed, own⟩, hnumbers, hcontracts⟩ := hp
  obtain ⟨baz, hbaz, installed⟩ := Option.map_eq_some_iff.1 installed
  obtain ⟨foo, hfoo, own⟩ := Option.map_eq_some_iff.1 own
  have doubles : p.manifest.toJson.DoublesReadBack := by simp [Json.DoublesReadBack, hnumbers]
  obtain ⟨t, m, hrun, hload, hdependencies, -, -, -, hown, hm⟩ :=
    ((run_removeContract (fun _ => none) loaded "Foo").2 foo hfoo).2 own MemoryStorage.Free rfl
      (MemoryStorage.accepts _) (MemoryStorage.separate fun a b ha hb _ => ha.trans hb.symm) doubles
  refine ⟨(run_removeContract (fun _ => none) loaded "Qux").1 (Option.map_eq_none_iff.1 absent),
    ((run_removeContract (fun _ => none) loaded "Baz").2 baz hbaz).1 installed, t, m, hrun, hload,
    ?_⟩
  rw [hm, Manifest.ownNames, hown, hdependencies]
  exact hcontracts

end ContractProject.Command
