import ContractProject.Proofs.Manifest.Deployments
import ContractProject.Proofs.Source

/-!
A manifest that was read is read back from what it is written as, with the contracts that stand for
dependencies where they were: these are not written, and are added again.
-/

namespace ContractProject.Manifest

open Document

/-! ### What is read -/

/-- The contracts that are there stay, and those that stand for dependencies follow. -/
theorem exists_append_withDependencies (contracts : Contracts) (dependencies : Dependencies) :
    ∃ added, (withDependencies contracts dependencies).toList = contracts.toList ++ added ∧
      ∀ c ∈ added, c.isDependency = true := by
  unfold withDependencies
  -- a contract is added only under a new name, so it goes to the end and replaces none
  induction dependencies.toList generalizing contracts with
  | nil => exact ⟨[], by simp⟩
  | cons d dependencies ih =>
    rw [List.foldl_cons]
    split
    · exact ih contracts
    · next hnew =>
      rw [Collection.contains_iff] at hnew
      obtain ⟨added, hadded, hall⟩ := ih (contracts.addDependency d d.source.network d.aliases)
      refine ⟨d.toContract d.source.network d.aliases :: added, ?_, ?_⟩
      · have hput : (contracts.addDependency d d.source.network d.aliases).toList =
            contracts.toList ++ [d.toContract d.source.network d.aliases] := put_of_not_mem hnew
        rw [hadded, hput, List.append_assoc, List.singleton_append]
      · exact List.forall_mem_cons.2 ⟨rfl, hall⟩

theorem filter_withDependencies {contracts : Contracts}
    (own : ∀ c ∈ contracts.toList, c.isDependency = false) (dependencies : Dependencies) :
    (withDependencies contracts dependencies).toList.filter (!·.isDependency) =
      contracts.toList := by
  obtain ⟨added, hadded, hall⟩ := exists_append_withDependencies contracts dependencies
  have hown : contracts.toList.filter (!·.isDependency) = contracts.toList :=
    List.filter_eq_self.2 fun c hc => by simp [own c hc]
  have hnone : added.filter (!·.isDependency) = [] :=
    List.filter_eq_nil_iff.2 fun c hc => by simp [hall c hc]
  rw [hadded, List.filter_append, hown, hnone, List.append_nil]

/-- What holds of every manifest that was read. -/
structure Sound (m : Manifest) : Prop where
  /-- The contracts that stand for dependencies are those that reading adds. -/
  contracts : m.contracts = withDependencies ⟨m.ownContracts⟩ m.dependencies
  contract_names : (m.ownContracts.map Contract.name).Nodup
  contract : ∀ c ∈ m.ownContracts, (entryOfContract c).WellFormed
  dependency_names : m.dependencies.keys.Nodup
  dependency : ∀ d ∈ m.dependencies.toList, (entryOfDependency d).WellFormed
  source : ∀ d ∈ m.dependencies.toList, Source.read d.source.toText = .ok d.source
  network_names : m.networks.keys.Nodup
  account_names : m.accounts.keys.Nodup
  account : ∀ a ∈ m.accounts.toList, Restored (room 3) a.key
  deployments : ∃ groups, Grouped groups ∧ RestoredArgs groups ∧ m.deployments = ⟨ungroup groups⟩

/-- What holds of a draft that was read. -/
structure Draft.Sound (draft : Draft) : Prop where
  contracts : ∀ e ∈ draft.contracts, e.2.WellFormed
  dependencies : ∀ e ∈ draft.dependencies, e.2.WellFormed
  accounts : ∀ e ∈ draft.accounts, Restored (room 3) e.2.2
  networks_deployed : (draft.deployments.map Prod.fst).Nodup
  accounts_deployed : ∀ g ∈ draft.deployments, (g.2.map Prod.fst).Nodup
  args : RestoredArgs draft.deployments

theorem of_section? {α : Type} {read : Document → Option α} {field : Option Document}
    {entries : List (String × α)} (h : section? read field = some entries) :
    (entries.map Prod.fst).Nodup ∧ ∀ e ∈ entries, ∃ item, read item = some e.2 := by
  cases field with
  | none =>
    obtain rfl := Option.some.inj h
    simp
  | some d => exact of_mapping? h

theorem Draft.sound_of_ofDocument? {d : Document} {draft : Draft}
    (h : Draft.ofDocument? d = some draft) : draft.Sound := by
  obtain ⟨fields, -, h⟩ := Option.bind_eq_some_iff.1 h
  split at h
  · obtain ⟨contracts, hcontracts, h⟩ := Option.bind_eq_some_iff.1 h
    obtain ⟨dependencies, hdependencies, h⟩ := Option.bind_eq_some_iff.1 h
    obtain ⟨networks, -, h⟩ := Option.bind_eq_some_iff.1 h
    obtain ⟨accounts, haccounts, h⟩ := Option.bind_eq_some_iff.1 h
    obtain ⟨deployments, hdeployments, h⟩ := Option.bind_eq_some_iff.1 h
    obtain rfl := Option.some.inj h
    have hgroups := of_section? hdeployments
    have hgroup (g) (hg : g ∈ deployments) : (g.2.map Prod.fst).Nodup ∧ ∀ e ∈ g.2,
        ∃ item, list? (eitherForm? 4 (⟨·, []⟩) longDeployed?) item = some e.2 := by
      obtain ⟨item, hitem⟩ := hgroups.2 g hg
      exact of_mapping? hitem
    exact {
      contracts := fun e he => by
        obtain ⟨item, hitem⟩ := (of_section? hcontracts).2 e he
        exact wellFormed_of_eitherForm? (fun _ _ => wellFormed_of_longContract?) hitem
      dependencies := fun e he => by
        obtain ⟨item, hitem⟩ := (of_section? hdependencies).2 e he
        exact wellFormed_of_eitherForm? (fun _ _ => wellFormed_of_longDependency?) hitem
      accounts := fun e he => by
        obtain ⟨item, hitem⟩ := (of_section? haccounts).2 e he
        exact restored_of_account? hitem
      networks_deployed := hgroups.1
      accounts_deployed := fun g hg => (hgroup g hg).1
      args := fun g hg e he c hc => by
        obtain ⟨item, hitem⟩ := (hgroup g hg).2 e he
        obtain ⟨item, hitem⟩ := exists_of_list? hitem c hc
        exact restored_of_deployed? hitem }
  · cases h

theorem Draft.exists_of_mem_contracts (draft : Draft) {c : Contract}
    (h : c ∈ (Collection.ofList
      (draft.contracts.map fun (name, entry) => contractOf name entry)).toList) :
    ∃ e ∈ draft.contracts, contractOf e.1 e.2 = c :=
  List.mem_map.1 (Collection.mem_ofList h)

theorem sound_of_complete {draft : Draft} {m : Manifest} (sound : draft.Sound)
    (h : draft.complete = .ok m) : Sound m := by
  obtain ⟨dependencies, hdependencies, h⟩ := bind_eq_ok_iff.1 h
  obtain rfl := Except.ok.inj h
  -- what is read as a contract never stands for a dependency, so it is what is written again
  have hown := filter_withDependencies
    (fun c hc => by obtain ⟨e, -, rfl⟩ := draft.exists_of_mem_contracts hc; rfl)
    (.ofList dependencies)
  have hdependency {d : Dependency} (hd : d ∈ (Collection.ofList dependencies).toList) :
      (entryOfDependency d).WellFormed ∧ Source.read d.source.toText = .ok d.source := by
    obtain ⟨e, he, hread⟩ := exists_of_forall₂ (mapM_eq_ok_iff.1 hdependencies) d
      (Collection.mem_ofList hd)
    obtain ⟨source, hsource, hread⟩ := bind_eq_ok_iff.1 hread
    obtain rfl := Except.ok.inj hread
    have hentry := sound.dependencies e he
    exact ⟨⟨hentry.aliases, hentry.canonical⟩, Source.read_toText_of_read hsource⟩
  -- groups without accounts leave no deployment, and a contract deployed twice leaves one
  have hgrouped := grouped_settled sound.networks_deployed sound.accounts_deployed
  exact {
    contracts := congrArg (withDependencies · _) (congrArg Collection.mk hown.symm)
    contract_names := by
      rw [ownContracts, hown]
      exact Collection.nodup_keys_ofList _
    contract := fun c hc => by
      rw [ownContracts, hown] at hc
      obtain ⟨e, he, rfl⟩ := draft.exists_of_mem_contracts hc
      have hentry := sound.contracts e he
      exact ⟨hentry.aliases, hentry.canonical⟩
    dependency_names := Collection.nodup_keys_ofList _
    dependency := fun d hd => (hdependency hd).1
    source := fun d hd => (hdependency hd).2
    network_names := Collection.nodup_keys_ofList _
    account_names := Collection.nodup_keys_ofList _
    account := fun a ha => by
      obtain ⟨e, he, rfl⟩ := List.mem_map.1 (Collection.mem_ofList ha)
      exact sound.accounts e he
    deployments := ⟨settled draft.deployments, hgrouped, restoredArgs_settled sound.args,
      (congrArg Collection.ofList (ungroup_settled draft.deployments)).symm.trans
        (ofList_ungroup hgrouped)⟩ }

/-- Every manifest that is read is sound. -/
theorem sound_of_parse {bytes : Bytes} {m : Manifest} (h : parse bytes = .ok m) : Sound m := by
  unfold parse at h
  split at h
  · next draft hdraft =>
    obtain ⟨d, -, hd⟩ := Option.bind_eq_some_iff.1 hdraft
    exact sound_of_complete (Draft.sound_of_ofDocument? hd) h
  · cases h

/-! ### Sections -/

section Sections

variable {α β : Type} {entries : List β} {name : β → String} {json : β → Json}

theorem restored_section (room : Nat) (nodup : (entries.map name).Nodup)
    (h : ∀ e ∈ entries, Restored room (json e)) :
    Restored (room + 1) (Json.ofFields (entries.map fun e => (name e, json e))) := by
  have hnames : ((entries.map fun e => (name e, json e)).map Prod.fst).Nodup := by
    rw [List.map_map]
    exact nodup
  rw [Json.ofFields_of_nodup hnames]
  refine restored_object hnames fun f hf => ?_
  obtain ⟨e, he, rfl⟩ := List.mem_map.1 hf
  exact h e he

/-- A section is read back if its entries are, as far as the doubles in them are. -/
theorem section_ofJson {read : Document → Option α} {value : β → α}
    (nodup : (entries.map name).Nodup)
    (doubles : (Json.ofFields (entries.map fun e => (name e, json e))).DoublesReadBack)
    (h : ∀ e ∈ entries, (json e).DoublesReadBack → read (ofJson (json e)) = some (value e)) :
    mapping? read (ofJson (Json.ofFields (entries.map fun e => (name e, json e)))) =
      some (entries.map fun e => (name e, value e)) := by
  rw [Json.ofFields_of_nodup (by rw [List.map_map]; exact nodup)] at doubles ⊢
  exact mapping?_ofJson nodup fun e he => h e he (doubles.of_object (List.mem_map_of_mem he))

variable {c : Collection β} {key : String} {j : Json}

theorem lookup?_unlessEmpty (k : String) :
    lookup? k (unlessEmpty c key j) = if key = k ∧ ¬c.isEmpty then some (key, j) else none := by
  unfold unlessEmpty
  split <;> simp_all [lookup?_cons]

theorem mem_unlessEmpty {f : String × Json} (h : f ∈ unlessEmpty c key j) : f = (key, j) := by
  unfold unlessEmpty at h
  split at h
  · cases h
  · exact List.mem_singleton.1 h

theorem unlessEmpty_sublist : List.Sublist ((unlessEmpty c key j).map Prod.fst) [key] := by
  unfold unlessEmpty
  split <;> simp

/-- A section that is left out is read as one without entries. -/
theorem section?_unlessEmpty {read : Document → Option α} {values : List (String × α)}
    (h : ¬c.isEmpty → mapping? read (ofJson j) = some values) (none : c.isEmpty → values = []) :
    (section? read ((lookup? key (unlessEmpty c key j)).map fun f => ofJson f.2)) =
      some values := by
  rw [lookup?_unlessEmpty]
  by_cases hempty : c.isEmpty
  · simp [hempty, none hempty, section?, optional?]
  · simpa [hempty, section?, optional?] using h hempty

/-- A section that is read is left out and without entries, or all of it is read. -/
theorem of_section?_unlessEmpty {read : Document → Option α} {values : List (String × α)}
    (h : section? read ((lookup? key (unlessEmpty c key j)).map fun f => ofJson f.2) =
      some values) :
    (c.isEmpty ∧ values = []) ∨ (¬c.isEmpty ∧ mapping? read (ofJson j) = some values) := by
  rw [lookup?_unlessEmpty] at h
  by_cases hempty : c.isEmpty
  · rw [if_neg (by simp [hempty])] at h
    exact .inl ⟨hempty, (Option.some.inj h).symm⟩
  · rw [if_pos ⟨rfl, hempty⟩] at h
    exact .inr ⟨hempty, h⟩

end Sections

/-- What reading the written form gives, before the sources of dependencies are read. -/
def draft (m : Manifest) : Draft where
  contracts := m.ownContracts.map fun c => (c.name, entryOfContract c)
  dependencies := m.dependencies.toList.map fun d => (d.name, entryOfDependency d)
  networks := m.networks.toList.map fun n => (n.name, n.host, n.key)
  accounts := m.accounts.toList.map fun a => (a.name, a.address, a.key)
  deployments := groupDeployments m.deployments

theorem contracts_draft (m : Manifest) :
    m.draft.contracts.map (fun (name, entry) => contractOf name entry) = m.ownContracts := by
  rw [draft, List.map_map]
  refine (List.map_congr_left fun c hc => ?_).trans (List.map_id _)
  have hown : c.isDependency = false := by simpa using (List.mem_filter.1 hc).2
  exact congrArg (Contract.mk c.name c.location c.aliases c.canonical) hown.symm

theorem dependencies_draft {m : Manifest} (sound : Sound m) :
    m.draft.dependencies.mapM (fun (name, entry) => dependencyOf name entry) =
      .ok m.dependencies.toList := by
  rw [mapM_eq_ok_iff, draft, List.forall₂_map_left_iff, List.forall₂_same]
  intro d hd
  have hsource : Source.read (entryOfDependency d).source = .ok d.source := sound.source d hd
  exact bind_eq_ok_iff.2 ⟨d.source, hsource, rfl⟩

theorem networks_draft (m : Manifest) :
    m.draft.networks.map (fun (name, host, key) => (⟨name, host, key⟩ : Network)) =
      m.networks.toList := by
  rw [draft, List.map_map]
  exact List.map_id _

theorem accounts_draft (m : Manifest) :
    m.draft.accounts.map (fun (name, address, key) => (⟨name, address, key⟩ : Account)) =
      m.accounts.toList := by
  rw [draft, List.map_map]
  exact List.map_id _

/-- Reading the sources and adding the contracts for dependencies gives the manifest. -/
theorem complete_draft {m : Manifest} (sound : Sound m) : m.draft.complete = .ok m := by
  obtain ⟨groups, hgrouped, -, hdeployments⟩ := sound.deployments
  have hungroup : ungroup m.draft.deployments = ungroup groups := by
    rw [draft, hdeployments, groupDeployments_ungroup hgrouped]
  refine bind_eq_ok_iff.2 ⟨m.dependencies.toList, dependencies_draft sound, congrArg Except.ok ?_⟩
  -- names are distinct, so every collection is made of its own entries in their order
  rw [contracts_draft, networks_draft, accounts_draft,
    Collection.ofList_of_nodup sound.dependency_names,
    Collection.ofList_of_nodup sound.contract_names, ← sound.contracts,
    Collection.ofList_of_nodup sound.network_names, Collection.ofList_of_nodup sound.account_names]
  have hkept := (congrArg Collection.ofList hungroup).trans (ofList_ungroup hgrouped)
  rw [← hdeployments] at hkept
  exact congrArg (Manifest.mk m.contracts m.dependencies m.networks m.accounts) hkept

/-! ### The document -/

/-- The sections that are written. -/
def sections (m : Manifest) : List (String × Json) :=
  [("contracts", Json.ofFields (m.ownContracts.map fun c => (c.name, contractJson c))),
    ("dependencies", Json.ofFields (m.dependencies.toList.map fun d => (d.name, dependencyJson d)))]
  ++ unlessEmpty m.networks "networks"
    (Json.ofFields (m.networks.toList.map fun n => (n.name, networkJson n)))
  ++ unlessEmpty m.accounts "accounts"
    (Json.ofFields (m.accounts.toList.map fun a => (a.name, accountJson a)))
  ++ unlessEmpty m.deployments "deployments" (deploymentsJson m.deployments)

theorem toJson_eq_sections (m : Manifest) : m.toJson = .object m.sections := rfl

theorem nodup_sections (m : Manifest) : (m.sections.map Prod.fst).Nodup := by
  have hall : ["contracts", "dependencies", "networks", "accounts", "deployments"].Nodup := by
    decide
  refine hall.sublist ?_
  simp only [sections, List.map_append]
  exact (((List.Sublist.refl ["contracts", "dependencies"]).append unlessEmpty_sublist).append
    unlessEmpty_sublist).append unlessEmpty_sublist

theorem restored_toJson {m : Manifest} (sound : Sound m) : Restored nestingLimit m.toJson := by
  obtain ⟨groups, hgrouped, hargs, hdeployments⟩ := sound.deployments
  rw [toJson_eq_sections]
  show Restored (room 1 + 1) _
  refine restored_object m.nodup_sections ?_
  simp only [sections, List.forall_mem_append, List.forall_mem_cons]
  refine ⟨⟨⟨⟨?_, ?_, by simp⟩, ?_⟩, ?_⟩, ?_⟩
  · exact restored_section (room 2) sound.contract_names fun c hc =>
      restored_contractJson (sound.contract c hc) (room 4)
  · exact restored_section (room 2) sound.dependency_names fun d hd =>
      restored_dependencyJson (sound.dependency d hd) (room 4)
  · intro f hf
    obtain rfl := mem_unlessEmpty hf
    exact restored_section (room 2) sound.network_names fun n _ =>
      restored_networkJson n (room 3)
  · intro f hf
    obtain rfl := mem_unlessEmpty hf
    exact restored_section (room 2) sound.account_names fun a ha =>
      restored_accountJson (sound.account a ha)
  · intro f hf
    obtain rfl := mem_unlessEmpty hf
    rw [hdeployments, deploymentsJson_ungroup hgrouped]
    exact restored_groupsJson hgrouped hargs

/-! ### Reading the sections -/

section Fields

variable {m : Manifest}

/-- The document of a section, if that is written. -/
def field? (m : Manifest) (name : String) : Option Document :=
  (lookup? name m.sections).map fun f => ofJson f.2

theorem doubles_section (doubles : m.toJson.DoublesReadBack) (name : String) {j : Json}
    (h : (name, j) ∈ m.sections) : j.DoublesReadBack :=
  doubles.of_object h

theorem contracts?_field (sound : Sound m) (doubles : m.toJson.DoublesReadBack) :
    (section? (eitherForm? 2 .short longContract?) (m.field? "contracts")) =
      some m.draft.contracts :=
  section_ofJson sound.contract_names
    (doubles_section doubles "contracts" (by simp [sections]))
    fun c hc => contract?_ofJson (sound.contract c hc)

theorem dependencies?_field (sound : Sound m) (doubles : m.toJson.DoublesReadBack) :
    (section? (eitherForm? 2 .short longDependency?) (m.field? "dependencies")) =
      some m.draft.dependencies :=
  section_ofJson sound.dependency_names
    (doubles_section doubles "dependencies" (by simp [sections]))
    fun d hd => dependency?_ofJson (sound.dependency d hd)

theorem networks?_field (sound : Sound m) (doubles : m.toJson.DoublesReadBack) :
    (section? (eitherForm? 2 (·, none) longNetwork?) (m.field? "networks")) =
      some m.draft.networks := by
  have hlookup : lookup? "networks" m.sections = lookup? "networks" (unlessEmpty m.networks
      "networks" (Json.ofFields (m.networks.toList.map fun n => (n.name, networkJson n)))) := by
    simp [sections, lookup?_append, lookup?_cons, lookup?_unlessEmpty]
  rw [field?, hlookup]
  refine section?_unlessEmpty (fun hne => ?_) fun hempty => ?_
  · exact section_ofJson sound.network_names
      (doubles_section doubles "networks" (by simp [sections, unlessEmpty, hne]))
      fun n _ => network?_ofJson n
  · rw [draft, List.isEmpty_iff.1 hempty, List.map_nil]

theorem accounts?_field (sound : Sound m) (doubles : m.toJson.DoublesReadBack) :
    (section? account? (m.field? "accounts")) = some m.draft.accounts := by
  have hlookup : lookup? "accounts" m.sections = lookup? "accounts" (unlessEmpty m.accounts
      "accounts" (Json.ofFields (m.accounts.toList.map fun a => (a.name, accountJson a)))) := by
    simp [sections, lookup?_append, lookup?_cons, lookup?_unlessEmpty]
  rw [field?, hlookup]
  refine section?_unlessEmpty (fun hne => ?_) fun hempty => ?_
  · exact section_ofJson sound.account_names
      (doubles_section doubles "accounts" (by simp [sections, unlessEmpty, hne]))
      fun a ha => account?_ofJson (sound.account a ha)
  · rw [draft, List.isEmpty_iff.1 hempty, List.map_nil]

theorem field?_deployments (m : Manifest) :
    m.field? "deployments" = (lookup? "deployments"
      (unlessEmpty m.deployments "deployments" (deploymentsJson m.deployments))).map
        fun f => ofJson f.2 := by
  have hlookup : lookup? "deployments" m.sections = lookup? "deployments"
      (unlessEmpty m.deployments "deployments" (deploymentsJson m.deployments)) := by
    simp [sections, lookup?_append, lookup?_cons, lookup?_unlessEmpty]
  rw [field?, hlookup]

theorem deployments?_field (sound : Sound m) (doubles : m.toJson.DoublesReadBack) :
    (section? (mapping? (list? (eitherForm? 4 (⟨·, []⟩) longDeployed?)))
      (m.field? "deployments")) = some m.draft.deployments := by
  obtain ⟨groups, hgrouped, hargs, hdeployments⟩ := sound.deployments
  have hgroups : m.draft.deployments = groups := by
    rw [draft, hdeployments, groupDeployments_ungroup hgrouped]
  rw [field?_deployments, hgroups]
  refine section?_unlessEmpty (fun hne => ?_) fun hempty => ?_
  · have hdoubles : (deploymentsJson m.deployments).DoublesReadBack :=
      doubles_section doubles "deployments" (by simp [sections, unlessEmpty, hne])
    rw [hdeployments, deploymentsJson_ungroup hgrouped] at hdoubles ⊢
    exact groups?_ofJson hgrouped hargs hdoubles
  · rw [← hgroups, draft, groupDeployments, List.isEmpty_iff.1 hempty, List.foldl_nil]

theorem listedRecord?_toJson (m : Manifest) :
    listedRecord? ["contracts", "dependencies", "networks", "accounts", "deployments"]
      (ofJson m.toJson) = some [m.field? "contracts", m.field? "dependencies",
        m.field? "networks", m.field? "accounts", m.field? "deployments"] :=
  listedRecord?_ofJson m.nodup_sections _

/-- Reading the document of a sound manifest gives its draft. -/
theorem ofDocument?_toJson (sound : Sound m) (doubles : m.toJson.DoublesReadBack) :
    Draft.ofDocument? (ofJson m.toJson) = some m.draft := by
  rw [Draft.ofDocument?, listedRecord?_toJson]
  simp only [Option.bind_eq_bind, Option.bind_some, contracts?_field sound doubles,
    dependencies?_field sound doubles, networks?_field sound doubles,
    accounts?_field sound doubles, deployments?_field sound doubles]
  rfl

/-- A sound manifest is read back from what it is written as. -/
theorem parse_toBytes_of_sound (sound : Sound m) (doubles : m.toJson.DoublesReadBack) :
    parse m.toBytes = .ok m := by
  have hdocument : Document.parse? m.toBytes = some (ofJson m.toJson) :=
    Json.parse?_encode_pretty (restored_toJson sound doubles).1
  rw [parse, hdocument, Option.bind_some, ofDocument?_toJson sound doubles]
  exact complete_draft sound

end Fields

/-- Whatever a manifest was read from, what it is written as is read as the same manifest, and this
one is written as the same bytes. Of the numbers in it, doubles must be read back from their
shortest decimals; integers always are. -/
theorem parse_toBytes_of_parse {bytes : Bytes} {m : Manifest} (parsed : parse bytes = .ok m)
    (doubles : m.toJson.DoublesReadBack) :
    parse m.toBytes = .ok m ∧ (parse m.toBytes).map toBytes = .ok m.toBytes := by
  have hread := parse_toBytes_of_sound (sound_of_parse parsed) doubles
  exact ⟨hread, by rw [hread, map_ok]⟩

/-- What the written form of a value is read as follows from what its document is read as. -/
theorem exists_parse_of_draft {α : Type} {j : Json} {f : Manifest → α} {a : α}
    (numbers : j.NumbersReadBack)
    (h : ((Draft.ofDocument? (ofJson j)).bind (·.complete.toOption)).map f = some a) :
    ∃ m, parse (Utf8.encodeString (j.pretty ++ "\n")) = .ok m ∧ f m = a := by
  obtain ⟨m, hm, hparts⟩ := Option.map_eq_some_iff.1 h
  obtain ⟨draft, hdraft, hcomplete⟩ := Option.bind_eq_some_iff.1 hm
  refine ⟨m, ?_, hparts⟩
  rw [parse, Json.parse?_encode_pretty numbers, Option.bind_some, hdraft]
  exact eq_ok_of_toOption hcomplete

/-- A document with short and long forms, in which one of two dependencies has the name of a
contract, and one network has no deployments. -/
def sampleDocument : Json :=
  .object [
    ("contracts", .object [("A", .string "a.cdc"), ("B", .array [.string "b.cdc",
      .object [("testnet", .string " 0X1")], .string ""])]),
    ("dependencies", .object [("Foo", .string "mainnet://2.Foo"),
      ("B", .object [("source", .string "mainnet://0x3.B"), ("aliases", .object [])])]),
    ("accounts", .object [("owner", .array [.string "1",
      .object [("weight", .number (.double ⟨false, 6755399441055744, -52⟩))]])]),
    ("deployments", .object [("testnet", .object []), ("emulator", .object [("owner", .array
      [.string "A", .object [("name", .string "B"), ("args", .array [.number (.integer 7)])]])])])]

theorem parse_toBytes_of_sample :
    ∃ m, parse (Utf8.encodeString (sampleDocument.pretty ++ "\n")) = .ok m ∧
      m.toJson.DoublesReadBack ∧ m.contracts.toList.map Contract.name = ["A", "B", "Foo"] ∧
      parse m.toBytes = .ok m ∧ (parse m.toBytes).map toBytes = .ok m.toBytes := by
  have hdouble : (Json.Number.double ⟨false, 6755399441055744, -52⟩).ReadsBack :=
    ⟨⟨false, ['1'], some ['5'], none⟩, by decide +kernel, by decide +kernel⟩
  have hinteger : (Json.Number.integer 7).ReadsBack :=
    Json.readsBack_integer (by decide) (by decide)
  have hsample : sampleDocument.NumbersReadBack := by
    simp [Json.NumbersReadBack, sampleDocument, Json.numbers, Json.itemNumbers, Json.fieldNumbers,
      hdouble, hinteger]
  have hdocument := Json.parse?_encode_pretty hsample
  have hmanifest : ((Draft.ofDocument? (ofJson sampleDocument)).bind (·.complete.toOption)).map
      (fun m => (m.contracts.toList.map Contract.name, m.toJson.numbers)) =
        some (["A", "B", "Foo"], [.double ⟨false, 6755399441055744, -52⟩, .integer 7]) := by
    decide +kernel
  obtain ⟨m, hm, hparts⟩ := Option.map_eq_some_iff.1 hmanifest
  obtain ⟨draft, hdraft, hcomplete⟩ := Option.bind_eq_some_iff.1 hm
  obtain ⟨hnames, hnumbers⟩ := Prod.mk.inj hparts
  have parsed : parse (Utf8.encodeString (sampleDocument.pretty ++ "\n")) = .ok m := by
    rw [parse, hdocument, Option.bind_some, hdraft]
    exact eq_ok_of_toOption hcomplete
  have doubles : m.toJson.DoublesReadBack := by
    intro x hx
    obtain rfl : x = ⟨false, 6755399441055744, -52⟩ := by simpa [hnumbers] using hx
    exact hdouble
  exact ⟨m, parsed, doubles, hnames, parse_toBytes_of_parse parsed doubles⟩

end ContractProject.Manifest
