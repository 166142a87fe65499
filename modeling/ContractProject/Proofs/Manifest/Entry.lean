import ContractProject.Manifest.Reader
import ContractProject.Manifest.Writer
import ContractProject.Proofs.Address
import ContractProject.Proofs.Json.Record

/-!
The entries of a manifest, one kind at a time: what is read of an entry is of a certain form, and an
entry of that form is read back from what it is written as.
-/

namespace ContractProject.Manifest

open Document

/-! ### Two forms -/

section Forms

variable {α : Type} {containers : Nat} {short : String → α} {long : Document → Option α}

theorem eitherForm?_long {fields : List (String × Json)}
    (h : value? (room containers) (ofJson (.object fields)) = some (.object fields)) :
    eitherForm? containers short long (ofJson (.object fields)) =
      long (ofJson (.object fields)) := by
  rw [eitherForm?, h]

theorem of_eitherForm? {d : Document} {a : α} (h : eitherForm? containers short long d = some a) :
    (∃ text, a = short text) ∨ long d = some a := by
  unfold eitherForm? at h
  split at h
  · cases h
  · exact .inl ⟨_, (Option.some.inj h).symm⟩
  · exact .inr h

theorem exists_value?_of_eitherForm? {d : Document} {a : α}
    (h : eitherForm? containers short long d = some a) :
    ∃ v, value? (room containers) d = some v := by
  refine Option.ne_none_iff_exists'.1 fun hnone => ?_
  rw [eitherForm?, hnone] at h
  cases h

end Forms

/-! ### Contracts and dependencies -/

/-- An entry as it is read: at most one alias a network, and no empty canonical name. -/
structure CodeEntry.WellFormed (entry : CodeEntry) : Prop where
  aliases : entry.aliases.keys.Nodup
  canonical : entry.canonical ≠ some ""

/-- What is written of a contract. -/
def entryOfContract (c : Contract) : CodeEntry := ⟨c.location, "", c.aliases, c.canonical⟩

/-- What is written of a dependency. -/
def entryOfDependency (d : Dependency) : CodeEntry :=
  ⟨d.source.toText, d.hash, d.aliases, d.canonical⟩

/-- Aliases on distinct new networks go to the end. -/
theorem foldl_add_of_nodup (pairs : List (String × Address)) (aliases : Aliases)
    (nodup : (aliases.keys ++ pairs.map Prod.fst).Nodup) :
    (pairs.foldl (fun aliases p => aliases.add p.1 p.2) aliases).toList =
      aliases.toList ++ pairs.map fun p => ⟨p.1, p.2⟩ := by
  induction pairs generalizing aliases with
  | nil => simp
  | cons p pairs ih =>
    have hnew : ¬Collection.contains aliases p.1 := by
      rw [Collection.contains_iff]
      exact not_mem_of_nodup_append nodup
    have hadd : aliases.add p.1 p.2 = ⟨aliases.toList ++ [⟨p.1, p.2⟩]⟩ := if_neg hnew
    have hkeys : (aliases.add p.1 p.2).keys = aliases.keys ++ [p.1] := by
      simp [hadd, Collection.keys, key]
    rw [List.foldl_cons, ih _ (by simpa [hkeys] using nodup), hadd]
    simp

/-- Pairs of distinct networks give one alias each. -/
theorem ofPairs_of_nodup {pairs : List (String × Address)} (nodup : (pairs.map Prod.fst).Nodup) :
    Aliases.ofPairs pairs = ⟨pairs.map fun p => ⟨p.1, p.2⟩⟩ :=
  congrArg Collection.mk (foldl_add_of_nodup pairs .empty nodup)

theorem aliasesJson_of_nodup {aliases : Aliases} (nodup : aliases.keys.Nodup) :
    aliasesJson aliases =
      .object (aliases.toList.map fun a => (a.network, .string a.address.toHex)) :=
  Json.ofFields_of_nodup (by rw [List.map_map]; exact nodup)

theorem address?_ofJson (a : Address) : address? (ofJson (.string a.toHex)) = some a := by
  simp [address?, Address.parse_toHex, Except.toOption]

theorem aliases?_ofJson {aliases : Aliases} (nodup : aliases.keys.Nodup) :
    aliases? (some (ofJson (aliasesJson aliases))) = some aliases := by
  have hpairs : mapping? address? (ofJson (aliasesJson aliases)) =
      some (aliases.toList.map fun a => (a.network, a.address)) := by
    rw [aliasesJson_of_nodup nodup]
    exact mapping?_ofJson nodup fun a _ => address?_ofJson a.address
  rw [aliases?, optional?, hpairs, Option.map_some,
    ofPairs_of_nodup (by rw [List.map_map]; exact nodup), List.map_map]
  exact congrArg (some ∘ Collection.mk) (List.map_id _)

theorem restored_aliasesJson {aliases : Aliases} (nodup : aliases.keys.Nodup) (room : Nat) :
    Restored (room + 1) (aliasesJson aliases) := by
  rw [aliasesJson_of_nodup nodup]
  refine restored_object (by rw [List.map_map]; exact nodup) fun f hf => ?_
  obtain ⟨a, -, rfl⟩ := List.mem_map.1 hf
  exact restored_string _

theorem lookup?_canonicalFields (canonical : Option String) :
    lookup? "canonical" (canonicalFields canonical) =
      canonical.map fun c => ("canonical", .string c) := by
  cases canonical <;> rfl

theorem nodup_canonicalFields {fields : List (String × Json)} (canonical : Option String)
    (nodup : (fields.map Prod.fst ++ ["canonical"]).Nodup) :
    ((fields ++ canonicalFields canonical).map Prod.fst).Nodup := by
  refine nodup.sublist ?_
  rw [List.map_append]
  refine (List.Sublist.refl _).append ?_
  cases canonical <;> simp [canonicalFields]

theorem canonical?_ofJson (canonical : Option String) (h : canonical ≠ some "") :
    canonical? ((canonical.map fun c => ("canonical", Json.string c)).map fun f => ofJson f.2) =
      some canonical := by
  cases canonical with
  | none => rfl
  | some name =>
    have hname : name ≠ "" := fun hname => h (congrArg some hname)
    simp [canonical?, nullable?, ofJson, text?, hname]

theorem restored_append_canonicalFields {room : Nat} {fields : List (String × Json)}
    {canonical : Option String} (nodup : (fields.map Prod.fst ++ ["canonical"]).Nodup)
    (h : ∀ f ∈ fields, Restored room f.2) :
    Restored (room + 1) (.object (fields ++ canonicalFields canonical)) := by
  refine restored_object (nodup_canonicalFields canonical nodup) fun f hf => ?_
  rcases List.mem_append.1 hf with hf | hf
  · exact h f hf
  · obtain ⟨name, -, rfl⟩ := List.mem_map.1 hf
    exact restored_string name

theorem restored_contractJson {c : Contract} (h : (entryOfContract c).WellFormed) (room : Nat) :
    Restored (room + 2) (contractJson c) := by
  unfold contractJson
  split
  · exact restored_string _
  · have haliases : Restored (room + 1) (aliasesJson c.aliases) :=
      restored_aliasesJson h.aliases room
    exact restored_append_canonicalFields (by simp) (by simp [restored_string, haliases])

theorem restored_dependencyJson {d : Dependency} (h : (entryOfDependency d).WellFormed)
    (room : Nat) : Restored (room + 2) (dependencyJson d) := by
  have haliases : Restored (room + 1) (aliasesJson d.aliases) :=
    restored_aliasesJson h.aliases room
  exact restored_append_canonicalFields (by simp) (by simp [restored_string, haliases])

/-- A contract is read back. -/
theorem contract?_ofJson {c : Contract} (h : (entryOfContract c).WellFormed)
    (doubles : (contractJson c).DoublesReadBack) :
    eitherForm? 2 .short longContract? (ofJson (contractJson c)) = some (entryOfContract c) := by
  have hvalue : value? (room 2) (ofJson (contractJson c)) = some (contractJson c) :=
    (restored_contractJson h (room 4) doubles).2
  unfold contractJson at hvalue ⊢
  split
  · next hshort =>
    -- nothing but the location is left: no aliases, and no canonical name since none is empty
    rw [Bool.and_eq_true, Bool.not_eq_true'] at hshort
    have haliases : c.aliases = .empty := congrArg Collection.mk (List.isEmpty_iff.1 hshort.1)
    have hcanonical : c.canonical = none := by
      by_contra hne
      obtain ⟨name, hname⟩ := Option.ne_none_iff_exists'.1 hne
      have hempty : name = "" := by
        simpa [Canonical.isAlias, Canonical.target?, Canonical.canonical, hname] using hshort.2
      exact h.canonical (by rw [← hempty]; exact hname)
    rw [entryOfContract, haliases, hcanonical]
    rfl
  · next hlong =>
    rw [if_neg hlong] at hvalue
    have hnames : (([("source", .string c.location), ("aliases", aliasesJson c.aliases)] ++
        canonicalFields c.canonical).map Prod.fst).Nodup := nodup_canonicalFields _ (by simp)
    have haliases : aliases? (some (ofJson (aliasesJson c.aliases))) = some c.aliases :=
      aliases?_ofJson h.aliases
    have hcanonical := canonical?_ofJson c.canonical h.canonical
    rw [eitherForm?_long hvalue, longContract?, listedRecord?_ofJson hnames]
    simp [lookup?_cons, lookup?_canonicalFields, -Option.map_map, haliases, hcanonical,
      entryOfContract]

/-- A dependency is read back. -/
theorem dependency?_ofJson {d : Dependency} (h : (entryOfDependency d).WellFormed)
    (doubles : (dependencyJson d).DoublesReadBack) :
    eitherForm? 2 .short longDependency? (ofJson (dependencyJson d)) =
      some (entryOfDependency d) := by
  have hvalue : value? (room 2) (ofJson (dependencyJson d)) = some (dependencyJson d) :=
    (restored_dependencyJson h (room 4) doubles).2
  have hnames : (([("source", .string d.source.toText), ("hash", .string d.hash),
      ("aliases", aliasesJson d.aliases)] ++ canonicalFields d.canonical).map Prod.fst).Nodup :=
    nodup_canonicalFields _ (by simp)
  have haliases : aliases? (some (ofJson (aliasesJson d.aliases))) = some d.aliases :=
    aliases?_ofJson h.aliases
  have hcanonical := canonical?_ofJson d.canonical h.canonical
  rw [dependencyJson] at hvalue ⊢
  rw [eitherForm?_long hvalue, longDependency?, listedRecord?_ofJson hnames]
  simp [lookup?_cons, lookup?_canonicalFields, -Option.map_map, haliases, hcanonical, optional?,
    entryOfDependency]

/-! ### Networks, accounts and deployed contracts -/

theorem restored_networkJson (n : Network) (room : Nat) : Restored (room + 1) (networkJson n) := by
  unfold networkJson
  split
  · exact restored_object (by simp) (by simp [restored_string])
  · exact restored_string _

/-- A network is read back. -/
theorem network?_ofJson (n : Network) (doubles : (networkJson n).DoublesReadBack) :
    eitherForm? 2 (·, none) longNetwork? (ofJson (networkJson n)) = some (n.host, n.key) := by
  have hvalue : value? (room 2) (ofJson (networkJson n)) = some (networkJson n) :=
    (restored_networkJson n (room 3) doubles).2
  obtain ⟨name, host, key⟩ := n
  cases key with
  | none => rfl
  | some key =>
    rw [networkJson] at hvalue ⊢
    rw [eitherForm?_long hvalue, longNetwork?, record?_ofJson (by simp)]
    simp [lookup?_cons]

theorem restored_accountJson {room : Nat} {a : Account} (h : Restored room a.key) :
    Restored (room + 1) (accountJson a) := by
  unfold accountJson
  split
  · exact restored_object (by simp) (by simp [restored_string])
  · exact restored_object (by simp) (by simp [restored_string, h])

/-- An account is read back, its key as far as its doubles are. -/
theorem account?_ofJson {a : Account} (h : Restored (room 3) a.key)
    (doubles : (accountJson a).DoublesReadBack) :
    account? (ofJson (accountJson a)) = some (a.address, a.key) := by
  unfold accountJson at doubles ⊢
  split
  · next hkey =>
    rw [account?, listedRecord?_ofJson (by simp)]
    simp [lookup?_cons, address?_ofJson, optional?, hkey]
  · next key hkey =>
    have hvalue : value? (room 3) (ofJson a.key) = some a.key :=
      (h (doubles.of_object (f := ("key", a.key)) (by simp))).2
    rw [account?, listedRecord?_ofJson (by simp)]
    simp [lookup?_cons, address?_ofJson, optional?, hvalue]

theorem restored_deployedJson {room : Nat} {c : DeployedContract}
    (h : ∀ arg ∈ c.args, Restored room arg) : Restored (room + 2) (deployedJson c) := by
  unfold deployedJson
  split
  · exact restored_string _
  · exact restored_object (by simp) (by simp [restored_string, restored_array h])

/-- A deployed contract is read back, its arguments as far as their doubles are. -/
theorem deployed?_ofJson {c : DeployedContract} (h : ∀ arg ∈ c.args, Restored (room 6) arg)
    (doubles : (deployedJson c).DoublesReadBack) :
    eitherForm? 4 (⟨·, []⟩) longDeployed? (ofJson (deployedJson c)) = some c := by
  have hvalue : value? (room 4) (ofJson (deployedJson c)) = some (deployedJson c) :=
    (restored_deployedJson h doubles).2
  obtain ⟨name, args⟩ := c
  cases args with
  | nil => rfl
  | cons arg args =>
    rw [deployedJson, if_neg (by simp)] at doubles hvalue ⊢
    have hargs : (Json.array (arg :: args)).DoublesReadBack :=
      doubles.of_object (f := ("args", .array (arg :: args))) (by simp)
    have hlist : list? (value? (room 6)) (ofJson (.array (arg :: args))) = some (arg :: args) := by
      rw [← List.map_id (arg :: args)]
      exact list?_ofJson fun x hx => (h x hx (hargs.of_array hx)).2
    rw [eitherForm?_long hvalue, longDeployed?, record?_ofJson (by simp)]
    simp [lookup?_cons, optional?, hlist]

/-! ### What is read of an entry -/

theorem nodup_keys_of_aliases? {field : Option Document} {aliases : Aliases}
    (h : aliases? field = some aliases) : aliases.keys.Nodup := by
  obtain ⟨pairs, -, rfl⟩ := Option.map_eq_some_iff.1 h
  clear h
  unfold Aliases.ofPairs
  suffices ∀ start : Aliases, start.keys.Nodup →
      (pairs.foldl (fun aliases p => aliases.add p.1 p.2) start).keys.Nodup from
    this .empty List.nodup_nil
  induction pairs with
  | nil => exact fun _ h => h
  | cons p pairs ih => exact fun start h => ih _ (Collection.nodup_keys_insertNew h _)

theorem ne_of_canonical? {field : Option Document} {canonical : Option String}
    (h : canonical? field = some canonical) : canonical ≠ some "" := by
  obtain ⟨read, -, rfl⟩ := Option.map_eq_some_iff.1 h
  intro hempty
  have := (Option.filter_eq_some_iff.1 hempty).2
  simp at this

theorem wellFormed_of_longContract? {d : Document} {entry : CodeEntry}
    (h : longContract? d = some entry) : entry.WellFormed := by
  obtain ⟨fields, -, h⟩ := Option.bind_eq_some_iff.1 h
  split at h
  · obtain ⟨source, -, h⟩ := Option.bind_eq_some_iff.1 h
    obtain ⟨aliases, haliases, h⟩ := Option.bind_eq_some_iff.1 h
    obtain ⟨canonical, hcanonical, h⟩ := Option.bind_eq_some_iff.1 h
    obtain rfl := Option.some.inj h
    exact ⟨nodup_keys_of_aliases? haliases, ne_of_canonical? hcanonical⟩
  · cases h

theorem wellFormed_of_longDependency? {d : Document} {entry : CodeEntry}
    (h : longDependency? d = some entry) : entry.WellFormed := by
  obtain ⟨fields, -, h⟩ := Option.bind_eq_some_iff.1 h
  split at h
  · obtain ⟨source, -, h⟩ := Option.bind_eq_some_iff.1 h
    obtain ⟨hash, -, h⟩ := Option.bind_eq_some_iff.1 h
    obtain ⟨aliases, haliases, h⟩ := Option.bind_eq_some_iff.1 h
    obtain ⟨canonical, hcanonical, h⟩ := Option.bind_eq_some_iff.1 h
    obtain rfl := Option.some.inj h
    exact ⟨nodup_keys_of_aliases? haliases, ne_of_canonical? hcanonical⟩
  · cases h

/-- Contracts and dependencies are well-formed in either form. -/
theorem wellFormed_of_eitherForm? {containers : Nat} {long : Document → Option CodeEntry}
    (hlong : ∀ d entry, long d = some entry → entry.WellFormed) {d : Document} {entry : CodeEntry}
    (h : eitherForm? containers .short long d = some entry) : entry.WellFormed := by
  rcases of_eitherForm? h with ⟨source, rfl⟩ | h
  · exact ⟨List.nodup_nil, nofun⟩
  · exact hlong d entry h

theorem restored_of_account? {d : Document} {entry : Address × Json} (h : account? d = some entry) :
    Restored (room 3) entry.2 := by
  obtain ⟨fields, -, h⟩ := Option.bind_eq_some_iff.1 h
  split at h
  · next key =>
    obtain ⟨address, -, h⟩ := Option.bind_eq_some_iff.1 h
    obtain ⟨value, hvalue, h⟩ := Option.bind_eq_some_iff.1 h
    obtain rfl := Option.some.inj h
    cases key with
    | none =>
      obtain rfl := Option.some.inj hvalue
      exact restored_of_value? .null rfl
    | some key => exact restored_of_value? key hvalue
  · cases h

theorem restored_of_deployed? {d : Document} {c : DeployedContract}
    (h : eitherForm? 4 (⟨·, []⟩) longDeployed? d = some c) :
    ∀ arg ∈ c.args, Restored (room 6) arg := by
  rcases of_eitherForm? h with ⟨name, rfl⟩ | h
  · simp
  obtain ⟨fields, -, h⟩ := Option.bind_eq_some_iff.1 h
  split at h
  · next args =>
    obtain ⟨name, -, h⟩ := Option.bind_eq_some_iff.1 h
    obtain ⟨values, hvalues, h⟩ := Option.bind_eq_some_iff.1 h
    obtain rfl := Option.some.inj h
    cases args with
    | none =>
      obtain rfl := Option.some.inj hvalues
      simp
    | some args =>
      intro arg harg
      obtain ⟨item, hitem⟩ := exists_of_list? hvalues arg harg
      exact restored_of_value? item hitem
  · cases h

end ContractProject.Manifest
