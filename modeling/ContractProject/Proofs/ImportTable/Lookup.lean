import ContractProject.Proofs.Project

/-!
What an import leads to in a table. The table is made of placed contracts, each entered by location
and by name, and of addresses that are given by location. An address that is given wins over those
of placed contracts, of these the last one wins over others, and all that is known by the path that
is imported wins over what is known by the import as it is written.
-/

namespace ContractProject.ImportTable

/-- The placement that was made last among those known by a key. -/
def lastPlaced? (placements : List Placement) (k : String) : Option Placement :=
  placements.reverse.find? fun q => q.name = k ∨ Path.clean q.location = k

/-- The address that is given for a location which has this normal form. -/
def given? (locations : Collection (String × Address)) (k : String) : Option Address :=
  (locations.toList.find? fun e => Path.clean e.1 = k).map Prod.snd

theorem known?_foldl_addPlacement (placements : List Placement)
    (addresses : Collection (String × Address)) (k : String) :
    known? (placements.foldl addPlacement addresses) k =
      ((lastPlaced? placements k).map Placement.address).or (known? addresses k) := by
  induction placements generalizing addresses with
  | nil => rfl
  | cons q placements ih =>
    rw [List.foldl_cons, ih, addPlacement, known?_insert, known?_insert, lastPlaced?, lastPlaced?,
      List.reverse_cons, List.find?_append, Option.map_or, Option.or_assoc]
    congr 1
    by_cases hname : q.name = k
    · simp [hname]
    · by_cases hlocation : Path.clean q.location = k <;> simp [hname, hlocation]

/-- Of entries that are put in one after the other, the last one under a key is known by it. -/
theorem known?_foldl_insert (entries : List (String × Address))
    (addresses : Collection (String × Address)) (k : String) :
    known? (entries.foldl Collection.insert addresses) k =
      ((lookup? k entries.reverse).map Prod.snd).or (known? addresses k) := by
  rw [known?, Collection.get?, Collection.toList_foldl_insert, lookup?_foldl_put, Option.map_or]
  rfl

/-- Of the locations with one normal form, the last one has its address entered. -/
theorem known?_ofPlacements_last (placements : List Placement)
    (locations : Collection (String × Address)) (canonical : Collection (String × String))
    (k : String) : known? (ofPlacements placements locations canonical).addresses k =
      (given? ⟨locations.toList.reverse⟩ k).or ((lastPlaced? placements k).map Placement.address) := by
  have hgiven := known?_foldl_insert (locations.toList.map fun e => (Path.clean e.1, e.2))
    (placements.foldl addPlacement .empty) k
  have hplaced := known?_foldl_addPlacement placements .empty k
  have hempty : known? .empty k = none := rfl
  rw [hempty, Option.or_none] at hplaced
  rw [List.foldl_map, hplaced, lookup?_eq_find?, ← List.map_reverse, List.find?_map, Option.map_map]
    at hgiven
  exact hgiven

/-- No two locations have one normal form, so there is only one address to be given. -/
theorem given?_perm {locations others : Collection (String × Address)}
    (perm : locations.toList.Perm others.toList) (distinct : (locations.keys.map Path.clean).Nodup)
    (k : String) : given? locations k = given? others k := by
  have hlookup (entries : List (String × Address)) : given? ⟨entries⟩ k =
      (lookup? k (entries.map fun e => (Path.clean e.1, e.2))).map Prod.snd := by
    rw [lookup?_eq_find?, List.find?_map, Option.map_map]
    rfl
  have nodup : ((locations.toList.map fun e => (Path.clean e.1, e.2)).map key).Nodup := by
    rw [Collection.keys, List.map_map] at distinct
    rw [List.map_map]
    exact distinct
  rw [hlookup, hlookup, lookup?_perm (perm.map _) nodup]

theorem resolve_eq (t : ImportTable) (importer location : String) :
    t.resolve importer location =
      ((known? t.addresses (Path.absolute importer location)).or
        (known? t.addresses location)).elim (.error (.unresolvedImport location)) .ok := by
  unfold resolve known?
  cases t.addresses.get? (Path.absolute importer location) with
  | some e => rfl
  | none => cases t.addresses.get? location <;> rfl

/-- What a table leads to by a key: the address that is given for it, or else that of the contract
that was placed last by this location or name. -/
def address? (placements : List Placement) (locations : Collection (String × Address))
    (k : String) : Option Address :=
  (given? locations k).or ((lastPlaced? placements k).map Placement.address)

/-- An import leads to what goes by its path, or else by what it says, and otherwise nowhere. The
order of the given addresses makes no difference. -/
theorem resolve_ofPlacements (placements : List Placement)
    {locations : Collection (String × Address)} (distinct : (locations.keys.map Path.clean).Nodup)
    (canonical : Collection (String × String)) (importer location : String) :
    (ofPlacements placements locations canonical).resolve importer location =
      ((address? placements locations (Path.absolute importer location)).or
        (address? placements locations location)).elim (.error (.unresolvedImport location)) .ok ∧
    ∀ others : Collection (String × Address), others.toList.Perm locations.toList →
      (ofPlacements placements others canonical).resolve importer location =
        (ofPlacements placements locations canonical).resolve importer location := by
  have known (others : Collection (String × Address)) (perm : others.toList.Perm locations.toList)
      (k : String) : known? (ofPlacements placements others canonical).addresses k =
        address? placements locations k := by
    have hgiven : given? locations k = given? ⟨others.toList.reverse⟩ k :=
      given?_perm (perm.symm.trans (List.reverse_perm _).symm) distinct k
    rw [known?_ofPlacements_last, ← hgiven, address?]
  have hresolve (others : Collection (String × Address))
      (perm : others.toList.Perm locations.toList) :
      (ofPlacements placements others canonical).resolve importer location =
        ((address? placements locations (Path.absolute importer location)).or
          (address? placements locations location)).elim
            (.error (.unresolvedImport location)) .ok := by
    rw [resolve_eq, known others perm, known others perm]
  exact ⟨hresolve locations (.refl _),
    fun others perm => (hresolve others perm).trans (hresolve locations (.refl _)).symm⟩

/-- A contract that is placed twice, the first time where an address is given. -/
def placedTwice : List Placement :=
  [⟨"Foo", "Foo.cdc", [], .ofNat 1, "a", []⟩, ⟨"Foo", "other/Foo.cdc", [], .ofNat 2, "b", []⟩]

def givenBeside : Collection (String × Address) :=
  ⟨[("Bar", .ofNat 4), ("./Foo.cdc", .ofNat 3)]⟩

theorem resolve_ofPlacements_of_placedTwice :
    (ofPlacements placedTwice givenBeside .empty).resolve "main.cdc" "Foo.cdc" = .ok (.ofNat 3) ∧
      (ofPlacements placedTwice givenBeside .empty).resolve "main.cdc" "Foo" = .ok (.ofNat 2) ∧
      (ofPlacements placedTwice givenBeside .empty).resolve "a/main.cdc" "Bar" = .ok (.ofNat 4) ∧
      (ofPlacements placedTwice givenBeside .empty).resolve "a/main.cdc" "Foo" = .ok (.ofNat 2) ∧
      (ofPlacements placedTwice givenBeside .empty).resolve "main.cdc" "Baz.cdc" =
        .error (.unresolvedImport "Baz.cdc") ∧
      (ofPlacements placedTwice ⟨givenBeside.toList.reverse⟩ .empty).resolve "main.cdc" "Foo.cdc" =
        .ok (.ofNat 3) := by
  have distinct : (givenBeside.keys.map Path.clean).Nodup := by decide +kernel
  have resolved (importer location : String) :=
    resolve_ofPlacements placedTwice distinct .empty importer location
  exact ⟨(resolved _ _).1.trans (by rfl), (resolved _ _).1.trans (by rfl),
    (resolved _ _).1.trans (by rfl), (resolved _ _).1.trans (by rfl),
    (resolved _ _).1.trans (by rfl),
    ((resolved _ _).2 _ (List.reverse_perm _)).trans ((resolved _ _).1.trans (by rfl))⟩

end ContractProject.ImportTable
