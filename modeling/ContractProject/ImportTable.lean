import ContractProject.Cadence.Program
import ContractProject.Collection

/-!
Resolving the imports of programs. A table knows addresses by location and by name; an import is
looked up by where it leads from the importing program first, then as it is written. Names that are
aliases are imported under their canonical name and keep their own as the local one.
-/

namespace ContractProject

open Cadence (Program)

/-- A contract that is deployed, with its source and the account it goes to. -/
structure Placement where
  name : String
  location : String
  code : Bytes
  address : Address
  account : String
  args : List Json
  deriving BEq, Repr

structure ImportTable where
  addresses : Collection (String × Address)
  /-- Names of aliases with those of their canonical contracts. -/
  canonical : Collection (String × String)
  deriving BEq, Repr

namespace ImportTable

def addPlacement (addresses : Collection (String × Address)) (p : Placement) :
    Collection (String × Address) :=
  (addresses.insert (Path.clean p.location, p.address)).insert (p.name, p.address)

/-- A table of placed contracts, by location and name, and of addresses by location, which win. -/
def ofPlacements (placements : List Placement) (locations : Collection (String × Address))
    (canonical : Collection (String × String)) : ImportTable where
  addresses :=
    locations.toList.foldl
      (fun addresses (location, address) => addresses.insert (Path.clean location, address))
      (placements.foldl addPlacement .empty)
  canonical

/-- The address of an import in the program at `importer`. -/
def resolve (t : ImportTable) (importer location : String) : Except Error Address :=
  match t.addresses.get? (Path.absolute importer location) with
  | some (_, address) => .ok address
  | none =>
    match t.addresses.get? location with
    | some (_, address) => .ok address
    | none => .error (.unresolvedImport location)

/-- The name of the contract that an import means: its own, unless that is an alias. -/
def canonicalName (t : ImportTable) (location : String) : String :=
  let own := Path.importName location
  match t.canonical.get? own with
  | some (_, canonical) => canonical
  | none => own

/-- The locations that a program has yet to resolve, each with its address. -/
def resolveAll (t : ImportTable) (importer : String) :
    List String → Except Error (List (String × Address))
  | [] => .ok []
  | location :: rest =>
    match t.resolve importer location with
    | .error e => .error e
    | .ok address => (resolveAll t importer rest).map ((location, address) :: ·)

/-- Replaces imports one location after the other, up to the first failure. -/
def replaceAll (t : ImportTable) (p : Program) :
    List (String × Address) → Program × Except Error Unit
  | [] => (p, .ok ())
  | (location, address) :: rest =>
    match p.replaceImport location address (some (t.canonicalName location)) with
    | (p, .error e) => (p, .error e)
    | (p, .ok ()) => replaceAll t p rest

/-- Replaces every unresolved import by one from an address. All are resolved before any is
replaced. -/
def replace (t : ImportTable) (p : Program) : Program × Except Error Unit :=
  match t.resolveAll p.location p.unresolved with
  | .error e => (p, .error e)
  | .ok resolved => t.replaceAll p resolved

end ImportTable

end ContractProject
