import ContractProject.Proofs.ImportTable.Elsewhere
import ContractProject.Proofs.ImportTable.Lookup
import ContractProject.Proofs.Result
import ContractProject.Storage.Memory

/-!
Which address a location or a name leads to when several contracts have one: contracts share the
location of their source with their aliases, and those that are deployed as well as those that are
known from elsewhere are entered by it.
-/

namespace ContractProject

namespace ImportTable

/-- Addresses that are given with the placements win. -/
theorem known?_ofPlacements (placements : List Placement)
    {locations : Collection (String × Address)} (nodup : locations.keys.Nodup) {k : String}
    (clean : ∀ l ∈ locations.keys, Path.clean l = k ↔ l = k)
    (canonical : Collection (String × String)) :
    known? (ofPlacements placements locations canonical).addresses k =
      (known? locations k).or ((lastPlaced? placements k).map Placement.address) := by
  have hgiven : given? ⟨locations.toList.reverse⟩ k = known? locations k := by
    rw [known?, Collection.get?, ← lookup?_perm (List.reverse_perm _)
      ((List.reverse_perm _).map key |>.nodup_iff.2 nodup), lookup?_eq_find?, given?]
    refine congrArg (Option.map Prod.snd) (List.find?_congr fun e he => ?_)
    exact decide_eq_decide.2 (clean e.1 (List.mem_map_of_mem (List.mem_reverse.1 he)))
  rw [known?_ofPlacements_last, hgiven]

end ImportTable

namespace Project

open ImportTable (known? lastPlaced?)

variable {p : Project} {network : String} {c : Contract}

/-- A contract that shares the location of its source with aliases only. Nothing else goes by this
location or by its name. -/
structure Sole (p : Project) (c : Contract) : Prop where
  mem : c ∈ p.manifest.contracts.toList
  own : Canonical.isAlias c = false
  alone : ∀ d ∈ p.manifest.contracts.toList, Canonical.isAlias d = false →
    p.sourceLocation d = p.sourceLocation c → d = c
  location : ∀ d ∈ p.manifest.contracts.toList, d.name ≠ p.sourceLocation c
  name : ∀ d ∈ p.manifest.contracts.toList, p.sourceLocation d ≠ c.name

/-- Where a contract has its source, its own address wins over those of its aliases. -/
theorem Sole.known?_location (sole : p.Sole c) :
    known? (p.aliasAddresses network) (p.sourceLocation c) =
      (c.aliases.address? network).or
        (p.aliasAddress? network p.manifest.contracts.toList (p.sourceLocation c)) := by
  rw [known?_aliasAddresses, ownAddress?_of_unique sole.mem (.inr ⟨sole.own, rfl⟩)]
  intro d hd own
  have hmem := (mem_aliased.1 hd).1
  rcases own with hname | ⟨own, hlocation⟩
  · exact absurd hname (sole.location d hmem)
  · exact sole.alone d hmem own hlocation

/-! ### Addresses of what is deployed -/

section Placements

variable {σ : Type} [Storage σ] {storage : σ} {placements : List Placement}

/-- The account deploys the contract on the network. -/
def Deploys (p : Project) (network : String) (c : Contract) (account : Account) : Prop :=
  ∃ d ∈ p.manifest.deployments.onNetwork network,
    d.contracts.contains c.name ∧ p.manifest.account d.account = .ok account

/-- What is placed of a contract on an account. -/
structure Places (p : Project) (c : Contract) (account : Account) (q : Placement) : Prop where
  name : q.name = c.name
  location : q.location = p.sourceLocation c
  address : q.address = account.address

theorem places_of_placement {account : Account} {deployed : DeployedContract} {q : Placement}
    (h : p.placement storage account deployed = .ok q) :
    ∃ c, p.manifest.contracts.get? deployed.name = some c ∧ p.Places c account q := by
  obtain ⟨c, hc, h⟩ := bind_eq_ok_iff.1 h
  have hget : p.manifest.contracts.get? deployed.name = some c := by
    unfold Manifest.contract Collection.find at hc
    split at hc
    · next hget => rw [hget, Except.ok.inj hc]
    · cases hc
  refine ⟨c, hget, ?_⟩
  cases hs : p.source? c with
  | none => simp [hs] at h
  | some source =>
    simp only [hs] at h
    obtain ⟨code, -, h⟩ := bind_eq_ok_iff.1 h
    obtain rfl := Except.ok.inj h
    exact ⟨rfl, by rw [sourceLocation, hs, Option.getD_some], rfl⟩

/-- What is placed comes from a contract that an account deploys. -/
theorem exists_of_mem_placements (placed : p.placements storage network = .ok placements)
    {q : Placement} (hq : q ∈ placements) : ∃ c ∈ p.manifest.contracts.toList, ∃ account,
      p.Deploys network c account ∧ p.Places c account q := by
  obtain ⟨groups, hgroups, rfl⟩ := map_eq_ok_iff.1 placed
  obtain ⟨group, hgroup, hq⟩ := List.mem_flatten.1 hq
  obtain ⟨d, hd, hgroup⟩ := exists_of_forall₂ (mapM_eq_ok_iff.1 hgroups) group hgroup
  obtain ⟨account, haccount, hgroup⟩ := bind_eq_ok_iff.1 hgroup
  obtain ⟨deployed, hdeployed, hq⟩ := exists_of_forall₂ (mapM_eq_ok_iff.1 hgroup) q hq
  obtain ⟨c, hget, places⟩ := places_of_placement hq
  obtain ⟨hmem, hname⟩ := mem_of_lookup? hget
  have hname : c.name = deployed.name := hname
  refine ⟨c, hmem, account, ⟨d, hd, ?_, haccount⟩, places⟩
  rw [Collection.contains_iff, hname]
  exact List.mem_map_of_mem hdeployed

/-- What an account deploys is placed. -/
theorem Deploys.exists_places (names : p.manifest.contracts.keys.Nodup)
    (placed : p.placements storage network = .ok placements)
    (mem : c ∈ p.manifest.contracts.toList) {account : Account}
    (deploys : p.Deploys network c account) : ∃ q ∈ placements, p.Places c account q := by
  obtain ⟨d, hd, hcontains, haccount⟩ := deploys
  obtain ⟨groups, hgroups, rfl⟩ := map_eq_ok_iff.1 placed
  obtain ⟨group, hmem, hgroup⟩ := exists_of_forall₂ (mapM_eq_ok_iff.1 hgroups).flip d hd
  obtain ⟨account', haccount', hgroup⟩ := bind_eq_ok_iff.1 hgroup
  obtain rfl : account = account' := Except.ok.inj (haccount.symm.trans haccount')
  rw [Collection.contains_iff] at hcontains
  obtain ⟨deployed, hdeployed, hname⟩ := List.mem_map.1 hcontains
  obtain ⟨q, hq, hplaced⟩ := exists_of_forall₂ (mapM_eq_ok_iff.1 hgroup).flip deployed hdeployed
  obtain ⟨c', hget, places⟩ := places_of_placement hplaced
  have hname : deployed.name = c.name := hname
  have hc : p.manifest.contracts.get? c.name = some c := Collection.get?_of_mem names mem
  rw [hname, hc] at hget
  obtain rfl := Option.some.inj hget
  exact ⟨q, List.mem_flatten.2 ⟨group, hmem, hq⟩, places⟩

/-- A contract has its address on the network from an alias, or from the one account that deploys
it there. -/
def Located (p : Project) (network : String) (c : Contract) : Prop :=
  (c.aliases.address? network).isSome ∨ ∃! account, p.Deploys network c account

theorem exists_account_of_mem (placed : p.placements storage network = .ok placements)
    {d : Deployment} (hd : d ∈ p.manifest.deployments.onNetwork network) :
    ∃ account, p.manifest.account d.account = .ok account := by
  obtain ⟨groups, hgroups, -⟩ := map_eq_ok_iff.1 placed
  obtain ⟨group, -, hgroup⟩ := exists_of_forall₂ (mapM_eq_ok_iff.1 hgroups).flip d hd
  obtain ⟨account, haccount, -⟩ := bind_eq_ok_iff.1 hgroup
  exact ⟨account, haccount⟩

/-- If one account deploys a contract, that is where the contract is. -/
theorem contractAddress_of_deploys (placed : p.placements storage network = .ok placements)
    (unaliased : c.aliases.address? network = none) {account : Account}
    (deploys : p.Deploys network c account)
    (unique : ∀ other, p.Deploys network c other → other = account) :
    p.contractAddress c network = .ok account.address := by
  obtain ⟨d, hd, hcontains, -⟩ := deploys
  have hfind : ((p.manifest.deployments.onNetwork network).find?
      (·.contracts.contains c.name)).isSome := List.find?_isSome.2 ⟨d, hd, hcontains⟩
  obtain ⟨first, hfirst⟩ := Option.isSome_iff_exists.1 hfind
  have hmem := List.mem_of_find?_eq_some hfirst
  obtain ⟨other, hother⟩ := exists_account_of_mem placed hmem
  obtain rfl := unique other ⟨first, hmem, by simpa using List.find?_some hfirst, hother⟩
  simp [contractAddress, unaliased, deployingAccount, hfirst, hother]

/-! ### What imports lead to -/

/-- Names and the locations of sources are in normal form. -/
structure Tidy (p : Project) : Prop where
  name : ∀ c ∈ p.manifest.contracts.toList, Path.clean c.name = c.name
  location : ∀ c ∈ p.manifest.contracts.toList,
    Path.clean (p.sourceLocation c) = p.sourceLocation c

theorem Tidy.clean_key (tidy : p.Tidy) {k : String} (hk : k ∈ (p.aliasAddresses network).keys) :
    Path.clean k = k := by
  obtain ⟨e, he, rfl⟩ := List.mem_map.1 hk
  obtain ⟨c, hc, -, goesBy⟩ := exists_of_mem_aliasAddresses he
  rcases e with ⟨k, a⟩
  cases goesBy with
  | location => exact tidy.location c hc
  | name => exact tidy.name c hc

/-- The address that a location has from the aliases there, or else from what was placed last. -/
def sharedAddress? (p : Project) (network : String) (placements : List Placement)
    (location : String) : Option Address :=
  (p.aliasAddress? network p.manifest.contracts.toList location).or
    ((placements.reverse.find? (·.location = location)).map Placement.address)

theorem Sole.known?_table_location (sole : p.Sole c) (tidy : p.Tidy)
    (placed : p.placements storage network = .ok placements) :
    known? (ImportTable.ofPlacements placements (p.aliasAddresses network)
        p.canonicalNames).addresses (p.sourceLocation c) =
      (c.aliases.address? network).or
        (p.sharedAddress? network placements (p.sourceLocation c)) := by
  have hplaced : lastPlaced? placements (p.sourceLocation c) =
      placements.reverse.find? (·.location = p.sourceLocation c) := by
    refine List.find?_congr fun q hq => ?_
    obtain ⟨d, hd, account, -, places⟩ :=
      exists_of_mem_placements placed (List.mem_reverse.1 hq)
    have hname : q.name ≠ p.sourceLocation c := places.name ▸ sole.location d hd
    have hclean : Path.clean q.location = q.location :=
      places.location ▸ tidy.location d hd
    simp [hname, hclean]
  rw [ImportTable.known?_ofPlacements placements (nodup_keys_aliasAddresses p network)
    (fun l hl => by rw [tidy.clean_key hl]), sole.known?_location, hplaced, Option.or_assoc]
  rfl

/-- Under a key that only a contract's name is, the account that deploys it is known. -/
theorem Sole.known?_table_name (sole : p.Sole c) (names : p.manifest.contracts.keys.Nodup)
    (tidy : p.Tidy) (placed : p.placements storage network = .ok placements)
    (located : p.Located network c) : ∃ b, p.contractAddress c network = .ok b ∧
      known? (ImportTable.ofPlacements placements (p.aliasAddresses network)
        p.canonicalNames).addresses c.name = some b := by
  rw [ImportTable.known?_ofPlacements placements (nodup_keys_aliasAddresses p network)
    (fun l hl => by rw [tidy.clean_key hl]),
    known?_aliasAddresses_name names sole.mem fun d hd => sole.name d (mem_aliased.1 hd).1]
  cases haddress : c.aliases.address? network with
  | some b => exact ⟨b, by rw [contractAddress, haddress], rfl⟩
  | none =>
    obtain ⟨account, deploys, unique⟩ := located.resolve_left (by simp [haddress])
    refine ⟨account.address, contractAddress_of_deploys placed haddress deploys unique, ?_⟩
    obtain ⟨q, hq, places⟩ := deploys.exists_places names placed sole.mem
    have hfind : (lastPlaced? placements c.name).isSome :=
      List.find?_isSome.2 ⟨q, List.mem_reverse.2 hq, by simp [places.name]⟩
    obtain ⟨last, hlast⟩ := Option.isSome_iff_exists.1 hfind
    obtain ⟨d, hd, account', deploys', places'⟩ :=
      exists_of_mem_placements placed (List.mem_reverse.1 (List.mem_of_find?_eq_some hlast))
    have hname : d.name = c.name := by
      have hkey := List.find?_some hlast
      rw [decide_eq_true_eq, places'.name, places'.location, tidy.location d hd] at hkey
      exact hkey.resolve_right (sole.name d hd)
    have hd' := Collection.get?_of_mem names hd
    rw [show key d = key c from hname, Collection.get?_of_mem names sole.mem] at hd'
    obtain rfl := Option.some.inj hd'
    rw [hlast, Option.map_some, places'.address, unique account' deploys', Option.none_or]

/-- A contract that has its address from elsewhere is imported from there by path as by name. One
that is deployed is imported by name from the account that deploys it. By path it is imported from
the same account only if that is what the contracts that share its source lead to: the first alias
with an address from elsewhere, or else what was placed last, which an alias may be. -/
theorem resolve_location_iff (names : p.manifest.contracts.keys.Nodup) (tidy : p.Tidy)
    (sole : p.Sole c) (placed : p.placements storage network = .ok placements)
    (located : p.Located network c) : ∃ t a b,
      p.importTable storage network = .ok t ∧ p.contractAddress c network = .ok b ∧
      (∀ importer location, Path.absolute importer location = p.sourceLocation c →
        t.resolve importer location = .ok a) ∧
      (∀ importer, Path.absolute importer c.name = c.name ∨
        Path.absolute importer c.name ∉ t.addresses.keys → t.resolve importer c.name = .ok b) ∧
      (a = b ↔ (c.aliases.address? network).isSome ∨
        p.sharedAddress? network placements (p.sourceLocation c) = some b) := by
  obtain ⟨b, hb, hname⟩ := sole.known?_table_name names tidy placed located
  have hlocation := sole.known?_table_location tidy placed
  obtain ⟨a, ha⟩ : ∃ a, (c.aliases.address? network).or
      (p.sharedAddress? network placements (p.sourceLocation c)) = some a := by
    rw [← Option.isSome_iff_exists, Option.isSome_or, Bool.or_eq_true]
    refine located.imp_right fun ⟨account, deploys, _⟩ => ?_
    obtain ⟨q, hq, places⟩ := deploys.exists_places names placed sole.mem
    rw [sharedAddress?, Option.isSome_or, Option.isSome_map, Bool.or_eq_true]
    exact .inr (List.find?_isSome.2 ⟨q, List.mem_reverse.2 hq, by simp [places.location]⟩)
  refine ⟨.ofPlacements placements (p.aliasAddresses network) p.canonicalNames, a, b,
    map_eq_ok_iff.2 ⟨placements, placed, rfl⟩, hb, ?_, ?_, ?_⟩
  · exact fun importer location leads =>
      ImportTable.resolve_of_known? leads (hlocation.trans ha)
  · rintro importer (leads | nowhere)
    · exact ImportTable.resolve_of_known? leads hname
    · exact ImportTable.resolve_of_unknown nowhere hname
  · cases haddress : c.aliases.address? network with
    | some own =>
      rw [contractAddress, haddress] at hb
      rw [haddress, Option.some_or] at ha
      have hab : a = b := (Option.some.inj ha).symm.trans (Except.ok.inj hb)
      exact iff_of_true hab (.inl rfl)
    | none =>
      rw [haddress, Option.none_or] at ha
      simp [ha]

end Placements

/-- A contract `Foo` with the source `Foo.cdc`, and an alias of it. -/
def foo : Contract := ⟨"Foo", "./Foo.cdc", .empty, none, false⟩

def fooAlias : Contract := ⟨"Foo1", "./Foo.cdc", .empty, some "Foo", false⟩

/-- The account that `Foo` is deployed on, and the one that its alias is deployed on. -/
def fooAccount : Account := ⟨"a", .ofNat 1, .null⟩

def fooAliasAccount : Account := ⟨"b", .ofNat 2, .null⟩

def fooDeployment : Deployment := ⟨emulator, "a", ⟨[⟨"Foo", []⟩]⟩⟩

def fooAliasDeployment : Deployment := ⟨emulator, "b", ⟨[⟨"Foo1", []⟩]⟩⟩

/-- A project that deploys both. -/
def fooProject (deployments : List Deployment) : Project :=
  ⟨Manifest.defaultPath,
    { Manifest.initial with
      contracts := ⟨[foo, fooAlias]⟩
      accounts := ⟨[fooAccount, fooAliasAccount]⟩
      deployments := ⟨deployments⟩ }⟩

def fooStorage : MemoryStorage :=
  .ofFiles [("Foo.cdc", Utf8.encode "contract Foo {}".toList)] []

theorem sole_foo (deployments : List Deployment) : (fooProject deployments).Sole foo where
  mem := List.mem_cons_self
  own := rfl
  alone := by
    refine List.forall_mem_cons.2 ⟨fun _ _ => rfl, List.forall_mem_singleton.2 fun h => ?_⟩
    exact absurd h (by decide)
  location := by
    show ∀ d ∈ [foo, fooAlias], d.name ≠ (fooProject []).sourceLocation foo
    decide +kernel
  name := by
    show ∀ d ∈ [foo, fooAlias], (fooProject []).sourceLocation d ≠ foo.name
    decide +kernel

theorem tidy_fooProject (deployments : List Deployment) : (fooProject deployments).Tidy where
  name := by
    show ∀ d ∈ [foo, fooAlias], Path.clean d.name = d.name
    decide +kernel
  location := by
    show ∀ d ∈ [foo, fooAlias],
      Path.clean ((fooProject []).sourceLocation d) = (fooProject []).sourceLocation d
    decide +kernel

/-- Only the first account deploys `Foo`. -/
theorem located_foo {deployments : List Deployment} (mem : fooDeployment ∈ deployments)
    (only : ∀ d ∈ deployments, d = fooDeployment ∨ d = fooAliasDeployment) :
    (fooProject deployments).Located emulator foo := by
  refine .inr ⟨fooAccount, ⟨fooDeployment, ?_, by decide, rfl⟩, ?_⟩
  · exact List.mem_filter.2 ⟨mem, by decide⟩
  · rintro other ⟨d, hd, hcontains, hother⟩
    rcases only d (List.mem_filter.1 hd).1 with rfl | rfl
    · exact (Except.ok.inj hother).symm
    · exact absurd hcontains (by decide)

/-- If the alias is deployed first, `Foo` is imported from its own account by path and by name. -/
theorem resolve_location_of_alias_first :
    ∃ t, (fooProject [fooAliasDeployment, fooDeployment]).importTable fooStorage emulator = .ok t ∧
      t.resolve "main.cdc" "./Foo.cdc" = .ok fooAccount.address ∧
      t.resolve "main.cdc" "Foo" = .ok fooAccount.address := by
  have located : (fooProject [fooAliasDeployment, fooDeployment]).Located emulator foo :=
    located_foo (by simp) (by simp)
  obtain ⟨placements, placed, hlast⟩ := exists_ok_of_toOption
    (f := fun placements => (fooProject [fooAliasDeployment, fooDeployment]).sharedAddress? emulator
      placements ((fooProject []).sourceLocation foo))
    (x := (fooProject [fooAliasDeployment, fooDeployment]).placements fooStorage emulator)
    (b := some fooAccount.address) (by decide +kernel)
  obtain ⟨t, a, b, table, hb, path, name, alike⟩ := resolve_location_iff (by decide)
    (tidy_fooProject _) (sole_foo _) placed located
  obtain rfl : b = fooAccount.address := by
    have evaluated : ((fooProject [fooAliasDeployment, fooDeployment]).contractAddress foo
        emulator).toOption = some fooAccount.address := by decide +kernel
    exact Except.ok.inj (hb.symm.trans (eq_ok_of_toOption evaluated))
  obtain rfl := alike.2 (.inr hlast)
  exact ⟨t, table, path "main.cdc" "./Foo.cdc" (by decide +kernel),
    name "main.cdc" (.inl (by decide +kernel))⟩

/-- If the alias is deployed last, `Foo` is imported from the alias's account by path, and from its
own by name. -/
theorem not_resolve_alike : ¬ ∀ (p : Project) (storage : MemoryStorage) (network : String)
    (c : Contract) (t : ImportTable), p.manifest.contracts.keys.Nodup → p.Tidy → p.Sole c →
      p.Located network c → p.importTable storage network = .ok t →
      ∀ importer location, Path.absolute importer location = p.sourceLocation c →
        Path.absolute importer c.name = c.name →
          t.resolve importer location = t.resolve importer c.name := by
  intro alike
  obtain ⟨t, table, evaluated⟩ := exists_ok_of_toOption
    (f := fun t : ImportTable => ((t.resolve "main.cdc" "./Foo.cdc").toOption,
      (t.resolve "main.cdc" "Foo").toOption))
    (x := (fooProject [fooDeployment, fooAliasDeployment]).importTable fooStorage emulator)
    (b := (some fooAliasAccount.address, some fooAccount.address)) (by decide +kernel)
  have located : (fooProject [fooDeployment, fooAliasDeployment]).Located emulator foo :=
    located_foo (by simp) (by simp)
  have := alike _ fooStorage emulator foo t (by decide) (tidy_fooProject _) (sole_foo _) located
    table "main.cdc" "./Foo.cdc" (by decide +kernel) (by decide +kernel)
  have hname : foo.name = "Foo" := rfl
  rw [this, hname, Prod.mk.injEq] at evaluated
  have := evaluated.1.symm.trans evaluated.2
  exact absurd this (by decide)

end Project

end ContractProject
