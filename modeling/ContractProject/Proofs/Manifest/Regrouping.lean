import ContractProject.Proofs.Manifest.ReadBack
import ContractProject.Proofs.OrderedMap

/-!
Writing groups deployments by network and account, whatever order they came in. What is read again
has each network's deployments in their order, though those of different networks are apart now.
-/

namespace ContractProject

/-! ### How deployments come about -/

/-- The deployment was made by adding and removing contracts. -/
def Deployment.Assembled (d : Deployment) : Prop :=
  ∃ steps, (takeSteps DeployedStep.step steps ⟨d.network, d.account, .empty⟩).1 = d

theorem Deployment.Assembled.nodup {d : Deployment} (h : d.Assembled) :
    d.contracts.keys.Nodup := by
  obtain ⟨steps, hsteps⟩ := h
  have hkeys := (DeployedStep.refines d.network d.account steps).1
  exact hsteps ▸ hkeys

theorem Deployment.assembled_empty (network account : String) :
    Deployment.Assembled ⟨network, account, .empty⟩ := ⟨[], rfl⟩

theorem Deployment.nodup_add {d : Deployment} (h : d.contracts.keys.Nodup)
    (c : DeployedContract) : (d.add c).contracts.keys.Nodup :=
  nodup_put h

theorem Deployment.nodup_remove {d : Deployment} (h : d.contracts.keys.Nodup) (name : String) :
    (d.remove name).contracts.keys.Nodup :=
  h.sublist (List.filter_sublist.map _)

/-- One deployment at most for an account on a network, and in each no contract twice. -/
structure Deployments.Distinct (deployments : Deployments) : Prop where
  keys : deployments.keys.Nodup
  contracts : ∀ d ∈ deployments.toList, d.contracts.keys.Nodup

namespace DeploymentStep

/-- The deployments that a step puts in as they are. -/
def given : DeploymentStep → List Deployment
  | .entry (.add d) => [d]
  | .entry (.collect deployments) => deployments
  | _ => []

theorem nodup_contracts_change {deployments : Deployments} {f : Deployment → Deployment}
    (kept : ∀ d, d.contracts.keys.Nodup → (f d).contracts.keys.Nodup) (k : String × String)
    (h : ∀ d ∈ deployments.toList, d.contracts.keys.Nodup) :
    ∀ d ∈ (deployments.change k f).toList, d.contracts.keys.Nodup := by
  intro d hd
  rcases mem_change hd with hmem | ⟨d, hmem, rfl⟩
  · exact h d hmem
  · exact kept d (h d hmem)

/-- A step leaves no contract twice in a deployment if it puts in none like that. -/
theorem nodup_contracts_of_step {st : DeploymentStep} {deployments after : Deployments}
    (given : ∀ d ∈ st.given, d.contracts.keys.Nodup)
    (h : ∀ d ∈ deployments.toList, d.contracts.keys.Nodup)
    (hstep : step st deployments = .ok after) :
    ∀ d ∈ after.toList, d.contracts.keys.Nodup := by
  cases st with
  | entry st =>
    cases st with
    | add d =>
      obtain rfl := Except.ok.inj hstep
      intro d' hd'
      rcases mem_put hd' with rfl | hd'
      · exact given d' (List.mem_singleton_self d')
      · exact h d' hd'
    | collect entries =>
      obtain rfl := Except.ok.inj hstep
      exact fun d hd => given d (Collection.mem_ofList hd)
    | remove k =>
      simp only [step, EntryStep.step, Collection.remove] at hstep
      split at hstep
      · next rest herase =>
        obtain rfl := Except.ok.inj hstep
        obtain ⟨entries, hentries, rfl⟩ := Option.map_eq_some_iff.1 herase
        exact fun d hd => h d ((erase?_sublist hentries).subset hd)
      · cases hstep
  | addContract account network c =>
    obtain rfl := Except.ok.inj hstep
    exact nodup_contracts_change (fun d hd => d.nodup_add hd c) (account, network) h
  | removeContract account network name =>
    obtain rfl := Except.ok.inj hstep
    exact nodup_contracts_change (fun d hd => d.nodup_remove hd name) (account, network) h

/-- Whatever is done to deployments from when there are none, they stay distinct. -/
theorem distinct_of_steps {steps : List DeploymentStep}
    (assembled : ∀ st ∈ steps, ∀ d ∈ st.given, d.Assembled) :
    (takeSteps step steps .empty).1.Distinct where
  keys := (refines steps).1
  contracts := by
    refine takeSteps_induct (P := fun deployments : Deployments => ∀ d ∈ deployments.toList,
      d.contracts.keys.Nodup) (by simp [Collection.empty]) fun st hst _ _ h hstep => ?_
    exact nodup_contracts_of_step (fun d hd => (assembled st hst d hd).nodup) h hstep

end DeploymentStep

namespace Manifest

open Document

/-! ### The order in groups -/

/-- What is grouped under a network. -/
def groupOf (network : String) (groups : Groups) : List (String × List DeployedContract) :=
  ((lookup? network groups).map Prod.snd).getD []

theorem groupOf_cons (network : String) (g : String × List (String × List DeployedContract))
    (groups : Groups) :
    groupOf network (g :: groups) = if g.1 = network then g.2 else groupOf network groups := by
  rw [groupOf, lookup?_cons, key_pair]
  split <;> rfl

theorem groupOf_of_mem {groups : Groups} (networks : (groups.map Prod.fst).Nodup)
    {g : String × List (String × List DeployedContract)} (h : g ∈ groups) :
    groupOf g.1 groups = g.2 := by
  have hlookup : lookup? g.1 groups = some g := lookup?_of_mem networks h
  rw [groupOf, hlookup]
  rfl

/-- A deployment goes into its network's group only. -/
theorem groupOf_enterGroup (network : String) (groups : Groups) (d : Deployment) :
    groupOf network (enterGroup groups d) =
      if d.network = network then put (d.account, d.contracts.toList) (groupOf network groups)
      else groupOf network groups := by
  rw [groupOf, enterGroup, lookup?_put, key_pair]
  split
  · next hnetwork =>
    subst hnetwork
    rfl
  · rfl

/-- A network's group is made of its deployments, whatever stands between them. -/
theorem groupOf_foldl_enterGroup (network : String) (deployments : List Deployment)
    (groups : Groups) :
    groupOf network (deployments.foldl enterGroup groups) =
      ((deployments.filter (·.network = network)).map fun d =>
        (d.account, d.contracts.toList)).foldl (fun es e => put e es) (groupOf network groups) := by
  induction deployments generalizing groups with
  | nil => rfl
  | cons d deployments ih =>
    rw [List.foldl_cons, ih, groupOf_enterGroup]
    by_cases hnetwork : d.network = network
    · rw [if_pos hnetwork, List.filter_cons_of_pos (by simpa using hnetwork)]
      rfl
    · rw [if_neg hnetwork, List.filter_cons_of_neg (by simpa using hnetwork)]

theorem nodup_accounts_onNetwork {deployments : Deployments} (keys : deployments.keys.Nodup)
    (network : String) : ((deployments.onNetwork network).map Deployment.account).Nodup := by
  have hkeys : ((deployments.onNetwork network).map key).Nodup :=
    keys.sublist (List.filter_sublist.map _)
  -- on one network the account is what is left of the key
  have hpairs : (deployments.onNetwork network).map key =
      ((deployments.onNetwork network).map Deployment.account).map (·, network) := by
    rw [List.map_map]
    refine List.map_congr_left fun d hd => ?_
    have hnetwork : d.network = network := by simpa using (List.mem_filter.1 hd).2
    exact congrArg (Prod.mk d.account) hnetwork
  rw [hpairs] at hkeys
  exact hkeys.of_map

/-- Each network's group holds its deployments in their order. -/
theorem groupOf_groupDeployments {deployments : Deployments} (keys : deployments.keys.Nodup)
    (network : String) :
    groupOf network (groupDeployments deployments) =
      (deployments.onNetwork network).map fun d => (d.account, d.contracts.toList) := by
  refine (groupOf_foldl_enterGroup network deployments.toList []).trans
    (foldl_put_nil_of_nodup ?_)
  rw [List.map_map]
  exact nodup_accounts_onNetwork keys network

theorem nodup_networks_foldl (deployments : List Deployment) {groups : Groups}
    (networks : (groups.map Prod.fst).Nodup) :
    ((deployments.foldl enterGroup groups).map Prod.fst).Nodup := by
  induction deployments generalizing groups with
  | nil => exact networks
  | cons d deployments ih => exact ih (nodup_put networks)

theorem nonempty_foldl (deployments : List Deployment) {groups : Groups}
    (nonempty : ∀ g ∈ groups, g.2 ≠ []) : ∀ g ∈ deployments.foldl enterGroup groups, g.2 ≠ [] := by
  induction deployments generalizing groups with
  | nil => exact nonempty
  | cons d deployments ih =>
    refine ih fun g hg => ?_
    rcases mem_put hg with rfl | hg
    · exact put_ne_nil _ _
    · exact nonempty g hg

theorem nodup_networks_groupDeployments (deployments : Deployments) :
    ((groupDeployments deployments).map Prod.fst).Nodup :=
  nodup_networks_foldl deployments.toList List.nodup_nil

/-- The accounts in a group and their contracts are those of the deployments on its network. -/
theorem eq_of_mem_groupDeployments {deployments : Deployments} (keys : deployments.keys.Nodup)
    {g : String × List (String × List DeployedContract)} (h : g ∈ groupDeployments deployments) :
    g.2 = (deployments.onNetwork g.1).map fun d => (d.account, d.contracts.toList) := by
  rw [← groupOf_groupDeployments keys,
    groupOf_of_mem (nodup_networks_groupDeployments deployments) h]

theorem exists_of_mem_group {deployments : Deployments} (keys : deployments.keys.Nodup)
    {g : String × List (String × List DeployedContract)} (hg : g ∈ groupDeployments deployments)
    {e : String × List DeployedContract} (he : e ∈ g.2) :
    ∃ d ∈ deployments.toList, d.contracts.toList = e.2 := by
  rw [eq_of_mem_groupDeployments keys hg] at he
  obtain ⟨d, hd, rfl⟩ := List.mem_map.1 he
  exact ⟨d, (List.mem_filter.1 hd).1, rfl⟩

/-- What is written of distinct deployments comes in groups. -/
theorem grouped_groupDeployments {deployments : Deployments} (distinct : deployments.Distinct) :
    Grouped (groupDeployments deployments) where
  networks := nodup_networks_groupDeployments deployments
  nonempty := nonempty_foldl deployments.toList (by simp)
  accounts g hg := by
    rw [eq_of_mem_groupDeployments distinct.keys hg, List.map_map]
    exact nodup_accounts_onNetwork distinct.keys g.1
  contracts g hg e he := by
    obtain ⟨d, hd, hcontracts⟩ := exists_of_mem_group distinct.keys hg he
    exact hcontracts ▸ distinct.contracts d hd

theorem filter_map_deploymentOf (network name : String)
    (byAccount : List (String × List DeployedContract)) :
    (byAccount.map fun e => deploymentOf name e.1 e.2).filter (·.network = network) =
      if name = network then byAccount.map fun e => deploymentOf network e.1 e.2 else [] := by
  split
  · next hname =>
    subst hname
    refine List.filter_eq_self.2 fun d hd => ?_
    obtain ⟨e, -, rfl⟩ := List.mem_map.1 hd
    exact decide_eq_true rfl
  · next hname =>
    refine List.filter_eq_nil_iff.2 fun d hd => ?_
    obtain ⟨e, -, rfl⟩ := List.mem_map.1 hd
    exact fun h => hname (of_decide_eq_true h)

/-- The deployments of groups on one network are those of its group. -/
theorem onNetwork_ungroup {groups : Groups} (networks : (groups.map Prod.fst).Nodup)
    (network : String) :
    Deployments.onNetwork ⟨ungroup groups⟩ network =
      (groupOf network groups).map fun e => deploymentOf network e.1 e.2 := by
  induction groups with
  | nil => rfl
  | cons g groups ih =>
    rw [List.map_cons, List.nodup_cons] at networks
    have hrest : (ungroup groups).filter (·.network = network) =
        (groupOf network groups).map fun e => deploymentOf network e.1 e.2 := ih networks.2
    have hcons : ungroup (g :: groups) =
        (g.2.map fun e => deploymentOf g.1 e.1 e.2) ++ ungroup groups := rfl
    rw [Deployments.onNetwork, hcons, List.filter_append, filter_map_deploymentOf, hrest,
      groupOf_cons]
    split
    · next hnetwork =>
      -- no group but the first one is of this network
      have hnone : groupOf network groups = [] := by
        rw [groupOf, lookup?_eq_none_iff.2 (hnetwork ▸ networks.1)]
        rfl
      rw [hnone, List.map_nil, List.append_nil]
    · rw [List.nil_append]

/-- Grouping keeps the deployments on each network. -/
theorem onNetwork_ungroup_groupDeployments {deployments : Deployments}
    (distinct : deployments.Distinct) (network : String) :
    Deployments.onNetwork ⟨ungroup (groupDeployments deployments)⟩ network =
      deployments.onNetwork network := by
  rw [onNetwork_ungroup (grouped_groupDeployments distinct).networks,
    groupOf_groupDeployments distinct.keys, List.map_map]
  refine (List.map_congr_left fun d hd => ?_).trans (List.map_id _)
  obtain ⟨hmem, hnetwork⟩ := List.mem_filter.1 hd
  obtain rfl : d.network = network := by simpa using hnetwork
  exact congrArg (Deployment.mk d.network d.account)
    (Collection.ofList_of_nodup (distinct.contracts d hmem))

/-! ### Reading the groups -/

/-- If a deployed contract can be read as it is written, its arguments are restored. -/
theorem restored_of_deployed?_ofJson {c read : DeployedContract}
    (distinct : ∀ arg ∈ c.args, arg.NamesDistinct) (numbers : (deployedJson c).NumbersReadBack)
    (h : eitherForm? 4 (⟨·, []⟩) longDeployed? (ofJson (deployedJson c)) = some read) :
    ∀ arg ∈ c.args, Restored (room 6) arg := by
  intro arg harg
  have hargs : ¬c.args.isEmpty := by
    rw [List.isEmpty_iff]
    exact List.ne_nil_of_mem harg
  rw [deployedJson, if_neg hargs] at h numbers
  have hfield : ("args", Json.array c.args) ∈
      [("name", Json.string c.name), ("args", .array c.args)] := by simp
  obtain ⟨value, hvalue⟩ := exists_value?_of_eitherForm? h
  have hlist : ∃ v, value? (room 6 + 1) (ofJson (.array c.args)) = some v :=
    exists_value?_of_object hvalue _ hfield
  obtain ⟨list, hlist⟩ := hlist
  obtain ⟨v, hv⟩ := exists_value?_of_array hlist arg harg
  exact restored_of_value?_ofJson (distinct arg harg) ((numbers.of_object hfield).of_array harg) hv

/-- If groups can be read as they are written, all arguments in them are restored. -/
theorem restoredArgs_of_groups?_ofJson {groups read : Groups}
    (distinct : ∀ g ∈ groups, ∀ e ∈ g.2, ∀ c ∈ e.2, ∀ arg ∈ c.args, arg.NamesDistinct)
    (numbers : (groupsJson groups).NumbersReadBack)
    (h : mapping? (mapping? (list? (eitherForm? 4 (⟨·, []⟩) longDeployed?)))
      (ofJson (groupsJson groups)) = some read) : RestoredArgs groups := by
  intro g hg e he c hc
  obtain ⟨byAccount, hbyAccount⟩ := exists_of_mapping?_ofJson h _ (List.mem_map_of_mem hg)
  obtain ⟨contracts, hcontracts⟩ := exists_of_mapping?_ofJson hbyAccount _ (List.mem_map_of_mem he)
  obtain ⟨x, hx⟩ := exists_of_list?_ofJson hcontracts _ (List.mem_map_of_mem hc)
  have hnumbers : (Json.array (e.2.map deployedJson)).NumbersReadBack :=
    (numbers.of_object (List.mem_map_of_mem hg)).of_object (List.mem_map_of_mem he)
  exact restored_of_deployed?_ofJson (distinct g hg e he c hc)
    (hnumbers.of_array (List.mem_map_of_mem hc)) hx

section Reading

variable {m m' : Manifest}

theorem deployments_of_complete {draft : Draft} (h : draft.complete = .ok m) :
    m.deployments = .ofList (ungroup draft.deployments) := by
  obtain ⟨dependencies, -, h⟩ := bind_eq_ok_iff.1 h
  obtain rfl := Except.ok.inj h
  rfl

/-- The section of the deployments in a document that is read. -/
theorem deployments?_of_ofDocument? {draft : Draft}
    (h : Draft.ofDocument? (ofJson m.toJson) = some draft) :
    (section? (mapping? (list? (eitherForm? 4 (⟨·, []⟩) longDeployed?)))
      (m.field? "deployments")) = some draft.deployments := by
  obtain ⟨fields, hfields, h⟩ := Option.bind_eq_some_iff.1 h
  obtain rfl := Option.some.inj ((listedRecord?_toJson m).symm.trans hfields)
  obtain ⟨contracts, -, h⟩ := Option.bind_eq_some_iff.1 h
  obtain ⟨dependencies, -, h⟩ := Option.bind_eq_some_iff.1 h
  obtain ⟨networks, -, h⟩ := Option.bind_eq_some_iff.1 h
  obtain ⟨accounts, -, h⟩ := Option.bind_eq_some_iff.1 h
  obtain ⟨deployments, hdeployments, h⟩ := Option.bind_eq_some_iff.1 h
  obtain rfl := Option.some.inj h
  exact hdeployments

/-- The groups that are read of a written manifest are the groups that were written. -/
theorem groups_of_ofDocument? {draft : Draft} (distinct : m.deployments.Distinct)
    (args : ∀ d ∈ m.deployments.toList, ∀ c ∈ d.contracts.toList, ∀ arg ∈ c.args,
      arg.NamesDistinct)
    (numbers : m.toJson.NumbersReadBack)
    (h : Draft.ofDocument? (ofJson m.toJson) = some draft) :
    draft.deployments = groupDeployments m.deployments := by
  have hsection := deployments?_of_ofDocument? h
  rw [field?_deployments] at hsection
  -- without deployments there is no section, which is read like one without groups
  rcases of_section?_unlessEmpty hsection with ⟨hempty, hnone⟩ | ⟨hne, hread⟩
  · rw [hnone, groupDeployments, List.isEmpty_iff.1 hempty, List.foldl_nil]
  · have hnumbers : (groupsJson (groupDeployments m.deployments)).NumbersReadBack :=
      numbers.of_object (f := ("deployments", deploymentsJson m.deployments))
        (by simp [unlessEmpty, hne])
    have hargs : RestoredArgs (groupDeployments m.deployments) := by
      refine restoredArgs_of_groups?_ofJson (fun g hg e he c hc => ?_) hnumbers hread
      obtain ⟨d, hd, hcontracts⟩ := exists_of_mem_group distinct.keys hg he
      exact args d hd c (hcontracts ▸ hc)
    have hgroups := groups?_ofJson (grouped_groupDeployments distinct) hargs hnumbers.doubles
    exact Option.some.inj (hread.symm.trans hgroups)

/-- What is read of a written manifest are its deployments by groups. -/
theorem deployments_of_parse_toBytes (distinct : m.deployments.Distinct)
    (args : ∀ d ∈ m.deployments.toList, ∀ c ∈ d.contracts.toList, ∀ arg ∈ c.args,
      arg.NamesDistinct)
    (numbers : m.toJson.NumbersReadBack) (read : parse m.toBytes = .ok m') :
    m'.deployments = ⟨ungroup (groupDeployments m.deployments)⟩ := by
  have hdocument : Document.parse? m.toBytes = some (ofJson m.toJson) :=
    Json.parse?_encode_pretty numbers
  rw [parse, hdocument, Option.bind_some] at read
  split at read
  · next draft hdraft =>
    rw [deployments_of_complete read, groups_of_ofDocument? distinct args numbers hdraft]
    exact ofList_ungroup (grouped_groupDeployments distinct)
  · cases read

/-- Whatever was done to the deployments of a manifest, if what it is written as can be read, the
deployments on each network are read as they were, in their order. It is assumed that the numbers in
the manifest are read back, and that no object among the arguments has a name twice. -/
theorem onNetwork_of_parse_toBytes {steps : List DeploymentStep}
    (assembled : ∀ st ∈ steps, ∀ d ∈ st.given, d.Assembled)
    (built : m.deployments = (takeSteps DeploymentStep.step steps .empty).1)
    (args : ∀ d ∈ m.deployments.toList, ∀ c ∈ d.contracts.toList, ∀ arg ∈ c.args,
      arg.NamesDistinct)
    (numbers : m.toJson.NumbersReadBack) (read : parse m.toBytes = .ok m') (network : String) :
    m'.deployments.onNetwork network = m.deployments.onNetwork network := by
  have distinct : m.deployments.Distinct := built ▸ DeploymentStep.distinct_of_steps assembled
  rw [deployments_of_parse_toBytes distinct args numbers read]
  exact onNetwork_ungroup_groupDeployments distinct network

/-- Deployments on two networks that were added in turns. -/
def interleavedSteps : List DeploymentStep :=
  [.entry (.add ⟨emulator, "alice", .empty⟩), .entry (.add ⟨testnet, "bob", .empty⟩),
    .entry (.add ⟨emulator, "carol", .empty⟩), .addContract "carol" emulator ⟨"Kibble", []⟩,
    .addContract "carol" emulator ⟨"Items", [.object [("type", .string "Int8"),
      ("value", .number (.integer 10))]]⟩]

def interleaved : Manifest :=
  ⟨.empty, .empty, .empty, .empty, (takeSteps DeploymentStep.step interleavedSteps .empty).1⟩

theorem onNetwork_of_interleaved :
    ∃ m, parse interleaved.toBytes = .ok m ∧
      interleaved.deployments.keys =
        [("alice", emulator), ("bob", testnet), ("carol", emulator)] ∧
      m.deployments.keys = [("alice", emulator), ("carol", emulator), ("bob", testnet)] ∧
      ∀ network, m.deployments.onNetwork network = interleaved.deployments.onNetwork network := by
  have assembled : ∀ st ∈ interleavedSteps, ∀ d ∈ st.given, d.Assembled := by
    simp [interleavedSteps, DeploymentStep.given, Deployment.assembled_empty]
  have hargs : interleaved.deployments.toList.flatMap (fun d =>
      d.contracts.toList.flatMap DeployedContract.args) =
        [.object [("type", .string "Int8"), ("value", .number (.integer 10))]] := by rfl
  have hnumbers : interleaved.toJson.numbers = [.integer 10] := by decide +kernel
  have distinct : (Json.object [("type", .string "Int8"),
      ("value", .number (.integer 10))]).NamesDistinct :=
    .object (by decide) (by simp [Json.NamesDistinct.string, Json.NamesDistinct.number])
  have args : ∀ d ∈ interleaved.deployments.toList, ∀ c ∈ d.contracts.toList, ∀ arg ∈ c.args,
      arg.NamesDistinct := by
    intro d hd c hc arg harg
    have hmem : arg ∈ interleaved.deployments.toList.flatMap fun d =>
        d.contracts.toList.flatMap DeployedContract.args :=
      List.mem_flatMap.2 ⟨d, hd, List.mem_flatMap.2 ⟨c, hc, harg⟩⟩
    rw [hargs, List.mem_singleton] at hmem
    exact hmem ▸ distinct
  have numbers : interleaved.toJson.NumbersReadBack := by
    intro n hn
    rw [hnumbers, List.mem_singleton] at hn
    exact hn ▸ Json.readsBack_integer (by decide) (by decide)
  obtain ⟨m, read, hkeys⟩ := exists_parse_of_draft (j := interleaved.toJson)
    (f := (·.deployments.keys)) (a := [("alice", emulator), ("carol", emulator), ("bob", testnet)])
    numbers (by decide +kernel)
  exact ⟨m, read, by decide, hkeys, onNetwork_of_parse_toBytes assembled rfl args numbers read⟩

end Reading

end Manifest

end ContractProject
