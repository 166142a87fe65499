import ContractProject.Project
import ContractProject.Proofs.Collection

/-!
What a project makes known about addresses: each contract that has one on a network is known there
by the location of its source and by its name, and nothing else is.
-/

namespace ContractProject

namespace ImportTable

/-- A table without placements holds the addresses that it is made of. -/
theorem addresses_ofPlacements_nil (locations : Collection (String × Address))
    (canonical : Collection (String × String)) :
    (ofPlacements [] locations canonical).addresses =
      .ofList (locations.toList.map fun entry => (Path.clean entry.1, entry.2)) := by
  rw [Collection.ofList, List.foldl_map]
  rfl

/-- The address that is known by a key. -/
def known? (addresses : Collection (String × Address)) (k : String) : Option Address :=
  (addresses.get? k).map Prod.snd

theorem known?_insert (addresses : Collection (String × Address)) (e : String × Address)
    (k : String) :
    known? (addresses.insert e) k = if e.1 = k then some e.2 else known? addresses k := by
  rw [known?, Collection.get?_insert, key_pair]
  split <;> rfl

theorem known?_insertNew (addresses : Collection (String × Address)) (e : String × Address)
    (k : String) : known? (addresses.insertNew e) k =
      (known? addresses k).or (if e.1 = k then some e.2 else none) := by
  rw [known?, Collection.get?_insertNew, Option.map_or, key_pair]
  split <;> rfl

/-- An import leads to what is known by its path. -/
theorem resolve_of_known? {t : ImportTable} {importer location k : String} {a : Address}
    (leads : Path.absolute importer location = k) (known : known? t.addresses k = some a) :
    t.resolve importer location = .ok a := by
  obtain ⟨e, he, rfl⟩ := Option.map_eq_some_iff.1 known
  rw [resolve, leads, he]

/-- An import that leads nowhere by its path leads to what is known as it is written. -/
theorem resolve_of_unknown {t : ImportTable} {importer location : String} {a : Address}
    (nowhere : Path.absolute importer location ∉ t.addresses.keys)
    (known : known? t.addresses location = some a) : t.resolve importer location = .ok a := by
  rw [← Collection.get?_eq_none_iff] at nowhere
  obtain ⟨e, he, rfl⟩ := Option.map_eq_some_iff.1 known
  rw [resolve, nowhere, he]

/-- A name that leads nowhere resolves to the address that goes by it. -/
theorem resolve_of_name {t : ImportTable} {importer name : String} {a : Address}
    (nowhere : Path.absolute importer name ∉ t.addresses.keys) (known : name ∈ t.addresses.keys)
    (only : ∀ e ∈ t.addresses.toList, e.1 = name → e.2 = a) : t.resolve importer name = .ok a := by
  rw [← Collection.contains_iff, Collection.contains] at known
  obtain ⟨e, he⟩ := Option.isSome_iff_exists.1 known
  obtain ⟨hmem, hkey⟩ := mem_of_lookup? he
  refine resolve_of_unknown nowhere ?_
  rw [known?, he, Option.map_some, only e hmem hkey]

end ImportTable

namespace Project

variable {p : Project} {network : String}

/-- What a contract at an address goes by. -/
inductive GoesBy (p : Project) (c : Contract) : String → Prop
  | location : GoesBy p c (p.location ((p.source? c).getD c.location))
  | name : GoesBy p c c.name

theorem mem_addAlias {c : Contract} {addresses : Collection (String × Address)}
    {e : String × Address} (h : e ∈ (p.addAlias network addresses c).toList) :
    e ∈ addresses.toList ∨ (c.aliases.address? network = some e.2 ∧ p.GoesBy c e.1) := by
  unfold addAlias at h
  split at h
  · exact .inl h
  · next a ha =>
    rcases mem_put h with rfl | h
    · exact .inr ⟨ha, .name⟩
    · split at h
      · rcases Collection.mem_insertNew h with rfl | h
        · exact .inr ⟨ha, .location⟩
        · exact .inl h
      · rcases mem_put h with rfl | h
        · exact .inr ⟨ha, .location⟩
        · exact .inl h

/-- What is known is the address of a contract. -/
theorem exists_of_mem_aliasAddresses {e : String × Address}
    (h : e ∈ (p.aliasAddresses network).toList) :
    ∃ c ∈ p.manifest.contracts.toList, c.aliases.address? network = some e.2 ∧ p.GoesBy c e.1 := by
  have hfold : ∀ contracts : List Contract, ∀ addresses : Collection (String × Address),
      e ∈ (contracts.foldl (p.addAlias network) addresses).toList →
      e ∈ addresses.toList ∨
        ∃ c ∈ contracts, c.aliases.address? network = some e.2 ∧ p.GoesBy c e.1 := by
    intro contracts
    induction contracts with
    | nil => exact fun addresses h => .inl h
    | cons c contracts ih =>
      intro addresses h
      rcases ih _ h with h | ⟨d, hd, h⟩
      · rcases mem_addAlias h with h | h
        · exact .inl h
        · exact .inr ⟨c, List.mem_cons_self, h⟩
      · exact .inr ⟨d, List.mem_cons_of_mem c hd, h⟩
  rcases hfold _ _ h with h | h
  · cases h
  · exact h

theorem mem_keys_addAlias {c : Contract} {addresses : Collection (String × Address)} {k : String}
    (h : k ∈ addresses.keys) : k ∈ (p.addAlias network addresses c).keys := by
  unfold addAlias
  split
  · exact h
  · refine Collection.mem_keys_insert.2 (.inr ?_)
    split
    · exact Collection.mem_keys_insertNew.2 (.inr h)
    · exact Collection.mem_keys_insert.2 (.inr h)

/-- A contract with an address is known by its name. -/
theorem name_mem_aliasAddresses {c : Contract} (hc : c ∈ p.manifest.contracts.toList) {a : Address}
    (ha : c.aliases.address? network = some a) : c.name ∈ (p.aliasAddresses network).keys := by
  have hkept : ∀ contracts : List Contract, ∀ addresses : Collection (String × Address),
      c.name ∈ addresses.keys → c.name ∈ (contracts.foldl (p.addAlias network) addresses).keys := by
    intro contracts
    induction contracts with
    | nil => exact fun addresses h => h
    | cons d contracts ih => exact fun addresses h => ih _ (mem_keys_addAlias h)
  obtain ⟨before, after, hsplit⟩ := List.append_of_mem hc
  rw [aliasAddresses, hsplit, List.foldl_append, List.foldl_cons]
  refine hkept after _ ?_
  rw [addAlias, ha]
  exact Collection.mem_keys_insert.2 (.inl rfl)

end Project

end ContractProject
