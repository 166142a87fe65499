import ContractProject.Proofs.Manifest.Entry

/-!
Deployments are written by network and account. Deployments that were read come in such groups, and
grouping them gives these groups again.
-/

namespace ContractProject.Manifest

open Document

/-- Deployed contracts by network and account. -/
abbrev Groups := List (String × List (String × List DeployedContract))

/-- The deployments of groups, in order. -/
def ungroup (groups : Groups) : List Deployment :=
  groups.flatMap fun g => g.2.map fun e => deploymentOf g.1 e.1 e.2

/-- Groups as they are written: no group without accounts, and everything at most once. -/
structure Grouped (groups : Groups) : Prop where
  networks : (groups.map Prod.fst).Nodup
  nonempty : ∀ g ∈ groups, g.2 ≠ []
  accounts : ∀ g ∈ groups, (g.2.map Prod.fst).Nodup
  contracts : ∀ g ∈ groups, ∀ e ∈ g.2, (e.2.map DeployedContract.name).Nodup

theorem Grouped.tail {g : String × List (String × List DeployedContract)} {groups : Groups}
    (h : Grouped (g :: groups)) : Grouped groups where
  networks := (List.nodup_cons.1 h.networks).2
  nonempty x hx := h.nonempty x (List.mem_cons_of_mem _ hx)
  accounts x hx := h.accounts x (List.mem_cons_of_mem _ hx)
  contracts x hx := h.contracts x (List.mem_cons_of_mem _ hx)

/-! ### Grouping -/

/-- Puts a deployment into its group. -/
def enterGroup (groups : Groups) (d : Deployment) : Groups :=
  put (d.network, put (d.account, d.contracts.toList)
    (((lookup? d.network groups).map Prod.snd).getD [])) groups

theorem contracts_deploymentOf {contracts : List DeployedContract}
    (nodup : (contracts.map DeployedContract.name).Nodup) (network account : String) :
    (deploymentOf network account contracts).contracts.toList = contracts :=
  congrArg Collection.toList (Collection.ofList_of_nodup nodup)

/-- The groups while the last one is filled, which is there once it holds something. -/
def filling (before : Groups) (network : String) (group : List (String × List DeployedContract)) :
    Groups :=
  if group = [] then before else before ++ [(network, group)]

theorem enterGroup_filling {before : Groups} {network account : String}
    {group : List (String × List DeployedContract)} {contracts : List DeployedContract}
    (newNetwork : network ∉ before.map Prod.fst) (newAccount : account ∉ group.map Prod.fst)
    (nodup : (contracts.map DeployedContract.name).Nodup) :
    enterGroup (filling before network group) (deploymentOf network account contracts) =
      filling before network (group ++ [(account, contracts)]) := by
  have hnew : lookup? network before = none := lookup?_eq_none_iff.2 newNetwork
  have hgroup :
      ((lookup? network (filling before network group)).map Prod.snd).getD [] = group := by
    unfold filling
    split
    · next hempty => rw [hnew, hempty]; rfl
    · simp [lookup?_append, hnew, lookup?_cons]
  have hput (more : List (String × List DeployedContract)) :
      put (network, more) (filling before network group) = before ++ [(network, more)] := by
    unfold filling
    split
    · exact put_of_not_mem newNetwork
    · rw [put_append_of_not_mem newNetwork, put, key_pair, key_pair, if_pos rfl]
  have hdeployment : (deploymentOf network account contracts).network = network := rfl
  rw [enterGroup, contracts_deploymentOf nodup, hdeployment, hgroup, hput, filling,
    if_neg (by simp)]
  exact congrArg (fun group => before ++ [(network, group)]) (put_of_not_mem newAccount)

theorem foldl_enterGroup_filling {before : Groups} {network : String}
    (newNetwork : network ∉ before.map Prod.fst)
    (byAccount group : List (String × List DeployedContract))
    (accounts : ((group ++ byAccount).map Prod.fst).Nodup)
    (contracts : ∀ e ∈ byAccount, (e.2.map DeployedContract.name).Nodup) :
    (byAccount.map fun e => deploymentOf network e.1 e.2).foldl enterGroup
      (filling before network group) = filling before network (group ++ byAccount) := by
  induction byAccount generalizing group with
  | nil => simp
  | cons e byAccount ih =>
    have hnew : e.1 ∉ group.map Prod.fst := by
      rw [List.map_append] at accounts
      exact not_mem_of_nodup_append accounts
    rw [List.map_cons, List.foldl_cons,
      enterGroup_filling newNetwork hnew (contracts e List.mem_cons_self),
      ih (group ++ [(e.1, e.2)]) (by simpa using accounts)
        fun e he => contracts e (List.mem_cons_of_mem _ he)]
    simp

theorem foldl_enterGroup_ungroup (groups : Groups) {before : Groups}
    (grouped : Grouped groups)
    (networks : ((before ++ groups).map Prod.fst).Nodup) :
    (ungroup groups).foldl enterGroup before = before ++ groups := by
  induction groups generalizing before with
  | nil => simp [ungroup]
  | cons g groups ih =>
    have hnew : g.1 ∉ before.map Prod.fst := by
      rw [List.map_append] at networks
      exact not_mem_of_nodup_append networks
    have hg := foldl_enterGroup_filling hnew g.2 []
      (grouped.accounts g List.mem_cons_self) (grouped.contracts g List.mem_cons_self)
    rw [filling, if_pos rfl, List.nil_append, filling,
      if_neg (grouped.nonempty g List.mem_cons_self)] at hg
    have hrest : (ungroup groups).foldl enterGroup (before ++ [g]) = before ++ [g] ++ groups :=
      ih grouped.tail (by simpa using networks)
    rw [ungroup, List.flatMap_cons, List.foldl_append, hg]
    exact hrest.trans (by simp)

/-- Grouping deployments that come in groups gives these groups. -/
theorem groupDeployments_ungroup {groups : Groups} (grouped : Grouped groups) :
    groupDeployments ⟨ungroup groups⟩ = groups :=
  foldl_enterGroup_ungroup groups grouped grouped.networks

theorem nodup_keys_ungroup {groups : Groups} (grouped : Grouped groups) :
    ((ungroup groups).map key).Nodup := by
  have hkeys : (ungroup groups).map key =
      groups.flatMap fun g => g.2.map fun e => (e.1, g.1) := by
    simp [ungroup, List.map_flatMap, Function.comp_def, key, deploymentOf]
  rw [hkeys, List.nodup_flatMap]
  constructor
  · intro g hg
    have haccounts := (grouped.accounts g hg).map (f := fun account => (account, g.1))
      fun _ _ h => (Prod.mk.inj h).1
    rwa [List.map_map] at haccounts
  · refine (List.pairwise_map.1 grouped.networks).imp fun {g g'} hne k hk hk' => ?_
    obtain ⟨e, -, rfl⟩ := List.mem_map.1 hk
    obtain ⟨e', -, he⟩ := List.mem_map.1 hk'
    exact hne (Prod.mk.inj he).2.symm

/-- Deployments in groups are kept as they are. -/
theorem ofList_ungroup {groups : Groups} (grouped : Grouped groups) :
    Collection.ofList (ungroup groups) = ⟨ungroup groups⟩ :=
  Collection.ofList_of_nodup (nodup_keys_ungroup grouped)

/-! ### Deployments that are read -/

/-- The groups of what was read: of contracts with one name the last, and no empty groups. -/
def settled (groups : Groups) : Groups :=
  (groups.filter fun g => !g.2.isEmpty).map fun g =>
    (g.1, g.2.map fun e => (e.1, (Collection.ofList e.2).toList))

theorem grouped_settled {groups : Groups} (networks : (groups.map Prod.fst).Nodup)
    (accounts : ∀ g ∈ groups, (g.2.map Prod.fst).Nodup) : Grouped (settled groups) where
  networks := by
    rw [settled, List.map_map]
    exact networks.sublist (List.filter_sublist.map _)
  nonempty := by
    intro g hg
    obtain ⟨g, hmem, rfl⟩ := List.mem_map.1 hg
    simpa using (List.mem_filter.1 hmem).2
  accounts := by
    intro g hg
    obtain ⟨g, hmem, rfl⟩ := List.mem_map.1 hg
    rw [List.map_map]
    exact accounts g (List.mem_filter.1 hmem).1
  contracts := by
    intro g hg e he
    obtain ⟨g, -, rfl⟩ := List.mem_map.1 hg
    obtain ⟨e, -, rfl⟩ := List.mem_map.1 he
    exact Collection.nodup_keys_ofList e.2

/-- Settling groups keeps their deployments. -/
theorem ungroup_settled (groups : Groups) : ungroup (settled groups) = ungroup groups := by
  have hdeployment (network account : String) (contracts : List DeployedContract) :
      deploymentOf network account (Collection.ofList contracts).toList =
        deploymentOf network account contracts :=
    congrArg (Deployment.mk network account)
      (Collection.ofList_of_nodup (Collection.nodup_keys_ofList contracts))
  rw [ungroup, settled, List.flatMap_map]
  simp only [List.map_map, Function.comp_def, hdeployment]
  induction groups with
  | nil => rfl
  | cons g groups ih =>
    rw [List.filter_cons, ungroup, List.flatMap_cons]
    split
    · rw [List.flatMap_cons, ih, ungroup]
    · next hempty =>
      have hnone : g.2 = [] := by simpa using hempty
      rw [ih, ungroup, hnone, List.map_nil, List.nil_append]

/-! ### Reading groups back -/

/-- What is written of groups. -/
def groupsJson (groups : Groups) : Json :=
  .object (groups.map fun g =>
    (g.1, .object (g.2.map fun e => (e.1, .array (e.2.map deployedJson)))))

theorem deploymentsJson_ungroup {groups : Groups} (grouped : Grouped groups) :
    deploymentsJson ⟨ungroup groups⟩ = groupsJson groups := by
  rw [deploymentsJson, groupDeployments_ungroup grouped]
  rfl

/-- The arguments of all deployed contracts are restored where they stand. -/
def RestoredArgs (groups : Groups) : Prop :=
  ∀ g ∈ groups, ∀ e ∈ g.2, ∀ c ∈ e.2, ∀ arg ∈ c.args, Restored (room 6) arg

theorem restoredArgs_settled {groups : Groups} (args : RestoredArgs groups) :
    RestoredArgs (settled groups) := by
  intro g hg e he c hc
  obtain ⟨g, hmem, rfl⟩ := List.mem_map.1 hg
  obtain ⟨e, hentry, rfl⟩ := List.mem_map.1 he
  exact args g (List.mem_filter.1 hmem).1 e hentry c (Collection.mem_ofList hc)

theorem restored_groupsJson {groups : Groups} (grouped : Grouped groups)
    (args : RestoredArgs groups) : Restored (room 1) (groupsJson groups) := by
  have hcontracts (g) (hg : g ∈ groups) (e) (he : e ∈ g.2) :
      Restored (room 3) (.array (e.2.map deployedJson)) := by
    show Restored (room 4 + 1) _
    refine restored_array fun j hj => ?_
    obtain ⟨c, hc, rfl⟩ := List.mem_map.1 hj
    exact restored_deployedJson (args g hg e he c hc)
  have haccounts (g) (hg : g ∈ groups) :
      Restored (room 2) (.object (g.2.map fun e => (e.1, .array (e.2.map deployedJson)))) := by
    show Restored (room 3 + 1) _
    refine restored_object (by rw [List.map_map]; exact grouped.accounts g hg) fun f hf => ?_
    obtain ⟨e, he, rfl⟩ := List.mem_map.1 hf
    exact hcontracts g hg e he
  show Restored (room 2 + 1) _
  refine restored_object (by rw [List.map_map]; exact grouped.networks) fun f hf => ?_
  obtain ⟨g, hg, rfl⟩ := List.mem_map.1 hf
  exact haccounts g hg

/-- Groups are read back. -/
theorem groups?_ofJson {groups : Groups} (grouped : Grouped groups) (args : RestoredArgs groups)
    (doubles : (groupsJson groups).DoublesReadBack) :
    mapping? (mapping? (list? (eitherForm? 4 (⟨·, []⟩) longDeployed?)))
      (ofJson (groupsJson groups)) = some groups := by
  have hcontracts (g) (hg : g ∈ groups) (e) (he : e ∈ g.2) :
      list? (eitherForm? 4 (⟨·, []⟩) longDeployed?) (ofJson (.array (e.2.map deployedJson))) =
        some e.2 := by
    have hdoubles : (Json.array (e.2.map deployedJson)).DoublesReadBack :=
      (doubles.of_object (List.mem_map_of_mem hg)).of_object (List.mem_map_of_mem he)
    have hlist := list?_ofJson (f := deployedJson) (g := id) fun c hc =>
      deployed?_ofJson (args g hg e he c hc) (hdoubles.of_array (List.mem_map_of_mem hc))
    rwa [List.map_id] at hlist
  have haccounts (g) (hg : g ∈ groups) :
      mapping? (list? (eitherForm? 4 (⟨·, []⟩) longDeployed?))
        (ofJson (.object (g.2.map fun e => (e.1, .array (e.2.map deployedJson))))) = some g.2 := by
    have hmapping := mapping?_ofJson (g := Prod.snd) (grouped.accounts g hg) (hcontracts g hg)
    exact hmapping.trans (congrArg some (List.map_id _))
  have hmapping := mapping?_ofJson (g := Prod.snd) grouped.networks haccounts
  exact hmapping.trans (congrArg some (List.map_id _))

end ContractProject.Manifest
