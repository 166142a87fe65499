import ContractProject.Proofs.ImportTable.Precedence
import ContractProject.Proofs.Installation.Location

/-!
Two ways from the name of a contract to its address. A project looks for the first account that
deploys the contract; an import by name leads to the last one.
-/

namespace ContractProject

namespace ImportTable

theorem lastPlaced?_append (front back : List Placement) (k : String) :
    lastPlaced? (front ++ back) k = (lastPlaced? back k).or (lastPlaced? front k) := by
  rw [lastPlaced?, List.reverse_append, List.find?_append]
  rfl

theorem lastPlaced?_eq_none {placements : List Placement} {k : String}
    (h : ∀ q ∈ placements, q.name ≠ k ∧ Path.clean q.location ≠ k) :
    lastPlaced? placements k = none :=
  List.find?_eq_none.2 fun q hq => by simpa using h q (List.mem_reverse.1 hq)

end ImportTable

namespace Project

open ImportTable (known? lastPlaced?)

variable {p : Project} {network : String} {c : Contract}

/-- The account of the last deployment on a network that lists a contract. -/
def lastDeployingAccount (p : Project) (contract network : String) : Except Error Account :=
  match (p.manifest.deployments.onNetwork network).reverse.find?
    (·.contracts.contains contract) with
  | some d => p.manifest.account d.account
  | none => .error (.notFound .deployedContract s!"{contract} for network {network}")

/-- Under this key no contract is known but the one that has it as a name. -/
structure OnlyNamed (p : Project) (c : Contract) (k : String) : Prop where
  location : ∀ d ∈ p.manifest.contracts.toList, p.location d.location ≠ k
  clean_location : ∀ d ∈ p.manifest.contracts.toList, Path.clean (p.location d.location) ≠ k
  name : ∀ d ∈ p.manifest.contracts.toList, d.name = k ∨ Path.clean d.name = k → d = c

/-- The source of a contract is where some contract says that its own is. -/
theorem exists_location_eq_sourceLocation {d : Contract}
    (hd : d ∈ p.manifest.contracts.toList) :
    ∃ d' ∈ p.manifest.contracts.toList, p.sourceLocation d = p.location d'.location := by
  unfold sourceLocation source?
  split
  · exact ⟨d, hd, rfl⟩
  · next canonical _ =>
    cases hget : p.manifest.contracts.get? canonical with
    | none => exact ⟨d, hd, rfl⟩
    | some d' => exact ⟨d', (mem_of_lookup? hget).1, rfl⟩

theorem OnlyNamed.sourceLocation {k : String} (only : p.OnlyNamed c k) {d : Contract}
    (hd : d ∈ p.manifest.contracts.toList) :
    p.sourceLocation d ≠ k ∧ Path.clean (p.sourceLocation d) ≠ k := by
  obtain ⟨d', hd', hlocation⟩ := exists_location_eq_sourceLocation hd
  rw [hlocation]
  exact ⟨only.location d' hd', only.clean_location d' hd'⟩

/-- What goes by the key once it is in normal form goes by it as it is. -/
theorem OnlyNamed.clean_key {k l : String} (only : p.OnlyNamed c k)
    (clean : Path.clean c.name = c.name) (hl : l ∈ (p.aliasAddresses network).keys) :
    Path.clean l = k ↔ l = k := by
  obtain ⟨e, he, rfl⟩ := List.mem_map.1 hl
  obtain ⟨d, hd, -, goesBy⟩ := exists_of_mem_aliasAddresses he
  rcases e with ⟨l, a⟩
  cases goesBy with
  | location =>
    have apart := only.sourceLocation hd
    exact iff_of_false apart.2 apart.1
  | name =>
    constructor
    · intro h
      obtain rfl := only.name d hd (.inr h)
      exact clean.symm.trans h
    · intro h
      obtain rfl := only.name d hd (.inl h)
      exact clean.trans h

section Placements

variable {σ : Type} [Storage σ] {storage : σ} {placements : List Placement}

/-- A deployment that lists the contract, and no other one, places something under its name. -/
theorem OnlyNamed.lastPlaced?_of_placementsOf (only : p.OnlyNamed c c.name) {d : Deployment}
    {group : List Placement} (placed : p.placementsOf storage d = .ok group) :
    ∃ account, p.manifest.account d.account = .ok account ∧
      (lastPlaced? group c.name).map Placement.address =
        if d.contracts.contains c.name then some account.address else none := by
  obtain ⟨account, haccount, hgroup⟩ := bind_eq_ok_iff.1 placed
  have hlisted := mapM_eq_ok_iff.1 hgroup
  have hplaced (deployed : DeployedContract) (q : Placement)
      (h : p.placement storage account deployed = .ok q) :
      q.name = deployed.name ∧ Path.clean q.location ≠ c.name ∧ q.address = account.address := by
    obtain ⟨c', hget, places⟩ := places_of_placement h
    obtain ⟨hmem, hname⟩ := mem_of_lookup? hget
    exact ⟨places.name.trans hname, places.location ▸ (only.sourceLocation hmem).2, places.address⟩
  refine ⟨account, haccount, ?_⟩
  split
  · next hcontains =>
    obtain ⟨deployed, hdeployed, hname⟩ := List.mem_map.1 (Collection.contains_iff.1 hcontains)
    obtain ⟨q, hq, h⟩ := exists_of_forall₂ hlisted.flip deployed hdeployed
    have hkey : q.name = c.name := (hplaced deployed q h).1.trans hname
    have hfind : (lastPlaced? group c.name).isSome :=
      List.find?_isSome.2 ⟨q, List.mem_reverse.2 hq, by simp [hkey]⟩
    obtain ⟨last, hlast⟩ := Option.isSome_iff_exists.1 hfind
    obtain ⟨deployed', -, h'⟩ := exists_of_forall₂ hlisted last
      (List.mem_reverse.1 (List.mem_of_find?_eq_some hlast))
    rw [hlast, Option.map_some, (hplaced deployed' last h').2.2]
  · next hcontains =>
    rw [ImportTable.lastPlaced?_eq_none, Option.map_none]
    intro q hq
    obtain ⟨deployed, hdeployed, h⟩ := exists_of_forall₂ hlisted q hq
    obtain ⟨hname, hlocation, -⟩ := hplaced deployed q h
    refine ⟨fun hkey => hcontains ?_, hlocation⟩
    rw [Collection.contains_iff, ← hkey, hname]
    exact List.mem_map_of_mem hdeployed

/-- Of all that is placed the last deployment that lists the contract decides. -/
theorem OnlyNamed.lastPlaced?_flatten (only : p.OnlyNamed c c.name) {deployments : List Deployment}
    {groups : List (List Placement)}
    (placed : List.Forall₂ (fun d group => p.placementsOf storage d = .ok group) deployments groups) :
    (lastPlaced? groups.flatten c.name).map Placement.address =
      (deployments.reverse.find? (·.contracts.contains c.name)).bind fun d =>
        ((p.manifest.account d.account).map Account.address).toOption := by
  induction placed with
  | nil => rfl
  | @cons d group deployments groups h placed ih =>
    obtain ⟨account, haccount, hgroup⟩ := only.lastPlaced?_of_placementsOf h
    rw [List.flatten_cons, ImportTable.lastPlaced?_append, Option.map_or, ih, hgroup,
      List.reverse_cons, List.find?_append]
    cases hlast : deployments.reverse.find? (·.contracts.contains c.name) with
    | some last =>
      obtain ⟨group', -, h'⟩ := exists_of_forall₂ placed.flip last
        (List.mem_reverse.1 (List.mem_of_find?_eq_some hlast))
      obtain ⟨account', haccount', -⟩ := bind_eq_ok_iff.1 h'
      simp [haccount', Except.toOption]
    | none =>
      rw [Option.bind_none, Option.none_or, Option.none_or, List.find?_singleton]
      split
      · simp [haccount, Except.toOption]
      · rfl

/-- What is known by the name is the contract's address from elsewhere, or else the one of the
account of the last deployment that lists the contract. -/
theorem OnlyNamed.known?_table (only : p.OnlyNamed c c.name)
    (names : p.manifest.contracts.keys.Nodup) (mem : c ∈ p.manifest.contracts.toList)
    (name : Cadence.isName c.name) (placed : p.placements storage network = .ok placements) :
    known? (ImportTable.ofPlacements placements (p.aliasAddresses network)
        p.canonicalNames).addresses c.name =
      (c.aliases.address? network).or
        ((p.lastDeployingAccount c.name network).map Account.address).toOption := by
  obtain ⟨groups, hgroups, rfl⟩ := map_eq_ok_iff.1 placed
  rw [ImportTable.known?_ofPlacements _ (nodup_keys_aliasAddresses p network)
      (fun l hl => only.clean_key (Path.clean_of_plain (plain_of_isName name)) hl),
    known?_aliasAddresses_name names mem fun d hd => (only.sourceLocation (mem_aliased.1 hd).1).1,
    only.lastPlaced?_flatten (mapM_eq_ok_iff.1 hgroups)]
  congr 1
  unfold lastDeployingAccount
  split
  · next d hlast => rw [hlast, Option.bind_some]
  · next hlast =>
    rw [hlast]
    rfl

/-- Under a key that is nobody's name nothing is known. -/
theorem OnlyNamed.not_mem_keys {k : String} (only : p.OnlyNamed c k) (other : c.name ≠ k)
    (name : Cadence.isName c.name) (placed : p.placements storage network = .ok placements) :
    k ∉ (ImportTable.ofPlacements placements (p.aliasAddresses network)
        p.canonicalNames).addresses.keys := by
  have unnamed (d : Contract) (hd : d ∈ p.manifest.contracts.toList) : d.name ≠ k := fun h => by
    obtain rfl := only.name d hd (.inl h)
    exact other h
  have halias : known? (p.aliasAddresses network) k = none := by
    rw [known?, Collection.get?_eq_none_iff.2, Option.map_none]
    intro hk
    obtain ⟨e, he, rfl⟩ := List.mem_map.1 hk
    obtain ⟨d, hd, -, goesBy⟩ := exists_of_mem_aliasAddresses he
    rcases e with ⟨l, a⟩
    cases goesBy with
    | location => exact (only.sourceLocation hd).1 rfl
    | name => exact unnamed d hd rfl
  have hplaced : lastPlaced? placements k = none := by
    refine ImportTable.lastPlaced?_eq_none fun q hq => ?_
    obtain ⟨d, hd, account, -, places⟩ := exists_of_mem_placements placed hq
    exact ⟨places.name ▸ unnamed d hd, places.location ▸ (only.sourceLocation hd).2⟩
  have hnone := ImportTable.known?_ofPlacements placements (nodup_keys_aliasAddresses p network)
    (fun l hl => only.clean_key (Path.clean_of_plain (plain_of_isName name)) hl) p.canonicalNames
  rw [halias, hplaced, known?, Option.map_none, Option.or_none, Option.map_eq_none_iff] at hnone
  exact Collection.get?_eq_none_iff.1 hnone

/-- A contract that a first account deploys is deployed by a last one. -/
theorem exists_lastDeployingAccount (placed : p.placements storage network = .ok placements)
    {first : Account} (deploys : p.deployingAccount c.name network = .ok first) :
    ∃ last, p.lastDeployingAccount c.name network = .ok last := by
  unfold deployingAccount at deploys
  split at deploys
  · next d hfirst =>
    have hlast : ((p.manifest.deployments.onNetwork network).reverse.find?
        (·.contracts.contains c.name)).isSome :=
      List.find?_isSome.2 ⟨d, List.mem_reverse.2 (List.mem_of_find?_eq_some hfirst),
        by simpa using List.find?_some hfirst⟩
    obtain ⟨last, hlast⟩ := Option.isSome_iff_exists.1 hlast
    obtain ⟨account, haccount⟩ := exists_account_of_mem placed
      (List.mem_reverse.1 (List.mem_of_find?_eq_some hlast))
    refine ⟨account, ?_⟩
    rw [lastDeployingAccount, hlast]
    exact haccount
  · cases deploys

/-- A contract with an address from elsewhere is imported by name from that address. Without one it
is imported from the last account that deploys it, and `contractAddress` is that of the first. -/
theorem resolve_name_iff {a : Address} {importer : String}
    (names : p.manifest.contracts.keys.Nodup) (mem : c ∈ p.manifest.contracts.toList)
    (name : Cadence.isName c.name) (placed : p.placements storage network = .ok placements)
    (address : p.contractAddress c network = .ok a) (own : p.OnlyNamed c c.name)
    (joined : p.OnlyNamed c (Path.absolute importer c.name)) : ∃ t b,
      p.importTable storage network = .ok t ∧ t.resolve importer c.name = .ok b ∧
      (b = a ↔ (c.aliases.address? network).isSome ∨
        (p.lastDeployingAccount c.name network).map Account.address = .ok a) := by
  have hknown := own.known?_table names mem name placed
  have table : p.importTable storage network =
      .ok (.ofPlacements placements (p.aliasAddresses network) p.canonicalNames) := by
    rw [importTable, placed, map_ok]
  have leads (b : Address) (hb : known? (ImportTable.ofPlacements placements
      (p.aliasAddresses network) p.canonicalNames).addresses c.name = some b) :
      (ImportTable.ofPlacements placements (p.aliasAddresses network) p.canonicalNames).resolve
        importer c.name = .ok b := by
    by_cases h : Path.absolute importer c.name = c.name
    · exact ImportTable.resolve_of_known? h hb
    · exact ImportTable.resolve_of_unknown (joined.not_mem_keys (Ne.symm h) name placed) hb
  unfold contractAddress at address
  cases haddress : c.aliases.address? network with
  | some b =>
    rw [haddress] at address hknown
    exact ⟨_, b, table, leads b hknown, iff_of_true (Except.ok.inj address) (.inl rfl)⟩
  | none =>
    rw [haddress] at address hknown
    obtain ⟨first, hfirst, -⟩ := map_eq_ok_iff.1 address
    obtain ⟨last, hlast⟩ := exists_lastDeployingAccount placed hfirst
    rw [hlast, Option.none_or] at hknown
    refine ⟨_, last.address, table, leads last.address hknown, ?_⟩
    simp [hlast]

end Placements

/-- `Foo` deployed a second time, on the other account. -/
def fooElsewhere : Deployment := ⟨emulator, "b", ⟨[⟨"Foo", []⟩]⟩⟩

theorem onlyNamed_foo (deployments : List Deployment) {k : String}
    (location : ∀ d ∈ [foo, fooAlias], (fooProject []).location d.location ≠ k)
    (clean : ∀ d ∈ [foo, fooAlias], Path.clean ((fooProject []).location d.location) ≠ k)
    (name : ∀ d ∈ [foo, fooAlias], d.name = k ∨ Path.clean d.name = k → d = foo) :
    (fooProject deployments).OnlyNamed foo k :=
  ⟨location, clean, name⟩

/-- The alias of `Foo`, deployed last, makes no difference to an import of `Foo` by name. -/
theorem resolve_name_of_alias_last : ∃ t,
    (fooProject [fooDeployment, fooAliasDeployment]).importTable fooStorage emulator = .ok t ∧
      t.resolve "scripts/main.cdc" "Foo" = .ok fooAccount.address := by
  obtain ⟨placements, placed, -⟩ := exists_ok_of_toOption
    (f := List.length)
    (x := (fooProject [fooDeployment, fooAliasDeployment]).placements fooStorage emulator)
    (b := 2) (by decide +kernel)
  have own : (fooProject [fooDeployment, fooAliasDeployment]).OnlyNamed foo foo.name :=
    onlyNamed_foo _ (by decide +kernel) (by decide +kernel) (by decide +kernel)
  have joined : (fooProject [fooDeployment, fooAliasDeployment]).OnlyNamed foo
      (Path.absolute "scripts/main.cdc" foo.name) :=
    onlyNamed_foo _ (by decide +kernel) (by decide +kernel) (by decide +kernel)
  obtain ⟨t, b, table, hb, same⟩ := resolve_name_iff (c := foo) (a := fooAccount.address)
    (by decide) List.mem_cons_self (by decide) placed (eq_ok_of_toOption (by decide +kernel))
    own joined
  obtain rfl := same.2 (.inr (eq_ok_of_toOption (by decide +kernel)))
  exact ⟨t, table, hb⟩

/-- `Foo` is imported from the account of its second deployment, while `contractAddress` is that of
its first. -/
theorem not_resolve_name : ¬ ∀ (p : Project) (storage : MemoryStorage) (network importer : String)
    (c : Contract) (a : Address) (t : ImportTable), p.manifest.contracts.keys.Nodup →
      c ∈ p.manifest.contracts.toList → Cadence.isName c.name →
      p.contractAddress c network = .ok a →
      (∀ d ∈ p.manifest.contracts.toList, p.location d.location ≠ c.name ∧
        p.location d.location ≠ Path.absolute importer c.name) →
      p.importTable storage network = .ok t → t.resolve importer c.name = .ok a := by
  intro agree
  obtain ⟨t, table, evaluated⟩ := exists_ok_of_toOption
    (f := fun t : ImportTable => (t.resolve "main.cdc" "Foo").toOption)
    (x := (fooProject [fooDeployment, fooElsewhere]).importTable fooStorage emulator)
    (b := some fooAliasAccount.address) (by decide +kernel)
  have apart : ∀ d ∈ [foo, fooAlias], (fooProject []).location d.location ≠ foo.name ∧
      (fooProject []).location d.location ≠ Path.absolute "main.cdc" foo.name := by
    decide +kernel
  have := agree (fooProject [fooDeployment, fooElsewhere]) fooStorage emulator "main.cdc" foo
    fooAccount.address t (by decide) List.mem_cons_self (by decide)
    (eq_ok_of_toOption (by decide +kernel)) apart table
  have hname : foo.name = "Foo" := rfl
  rw [← hname, this] at evaluated
  exact absurd (Option.some.inj evaluated) (by decide)

end Project

end ContractProject
