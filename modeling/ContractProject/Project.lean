import ContractProject.ImportTable
import ContractProject.Manifest.Reader
import ContractProject.Manifest.Writer
import ContractProject.Storage.Access

/-!
A project is a manifest and where it is kept. The directory that holds the manifest is the one that
the manifest's locations are relative to.
-/

namespace ContractProject

structure Project where
  /-- The path of the manifest. -/
  path : String
  manifest : Manifest
  deriving BEq, Repr

namespace Project

/-- A new project. -/
def initial : Project := ⟨Manifest.defaultPath, .initial⟩

/-- The directory of a manifest at this path. -/
def directoryOf (path : String) : String :=
  match Path.parent? path with
  | none => Path.here
  | some parent => if parent.isEmpty then Path.here else parent

def directory (p : Project) : String := directoryOf p.path

/-- The path of a file that the manifest locates. -/
def pathOf (p : Project) (location : String) : String := Path.join p.directory location

/-- That path in the form that locations are compared in. -/
def location (p : Project) (location : String) : String := Path.clean (p.pathOf location)

/-! ### Contracts and their addresses -/

/-- The location of a contract's source, which is that of its canonical contract for an alias. -/
def source? (p : Project) (c : Contract) : Option String :=
  match Canonical.target? c with
  | none => some c.location
  | some canonical => (p.manifest.contracts.get? canonical).map Contract.location

/-- Makes a contract's address on a network known by location and by name. The location is that of
the source, where the canonical contract wins over its aliases, and the first alias over others. -/
def addAlias (p : Project) (network : String) (addresses : Collection (String × Address))
    (c : Contract) : Collection (String × Address) :=
  match c.aliases.address? network with
  | none => addresses
  | some address =>
    let entry := (p.location ((p.source? c).getD c.location), address)
    (if Canonical.isAlias c then addresses.insertNew entry else addresses.insert entry).insert
      (c.name, address)

/-- Where contracts are on a network that were not deployed from here, by location and by name. -/
def aliasAddresses (p : Project) (network : String) : Collection (String × Address) :=
  p.manifest.contracts.toList.foldl (p.addAlias network) .empty

/-- Each alias with the name of its canonical contract. -/
def canonicalNames (p : Project) : Collection (String × String) :=
  .ofList (p.manifest.contracts.toList.filterMap fun c =>
    (Canonical.target? c).map fun canonical => (c.name, canonical))

/-- The account that deploys a contract on a network. -/
def deployingAccount (p : Project) (contract network : String) : Except Error Account :=
  match (p.manifest.deployments.onNetwork network).find? (·.contracts.contains contract) with
  | some d => p.manifest.account d.account
  | none => .error (.notFound .deployedContract s!"{contract} for network {network}")

/-- Where a contract is on a network: at its alias, or else on the account that deploys it. -/
def contractAddress (p : Project) (c : Contract) (network : String) : Except Error Address :=
  match c.aliases.address? network with
  | some address => .ok address
  | none => (p.deployingAccount c.name network).map Account.address

/-! ### Files -/

section Files

variable {σ : Type} [Storage σ]

/-- Loads the project at a path. An entity that is its own alias makes it unsound. -/
def load (storage : σ) (path : String) : Except Error Project := do
  let manifest ← Manifest.parse (← Storage.readAt storage path)
  match manifest.selfCanonical? with
  | some (kind, name) => .error (.unsoundProject kind name)
  | none => return ⟨path, manifest⟩

def saveAs (p : Project) (path : String) (storage : σ) : σ × Except Error Unit :=
  Storage.writeAt storage path p.manifest.toBytes

/-- Saves a project where it was loaded from. -/
def save (p : Project) (storage : σ) : σ × Except Error Unit :=
  Storage.writeWithParent storage p.path p.manifest.toBytes

def read (p : Project) (storage : σ) (location : String) : Except Error Bytes :=
  Storage.readAt storage (p.pathOf location)

/-- A deployed contract with its source and the account that it goes to. -/
def placement (p : Project) (storage : σ) (account : Account) (deployed : DeployedContract) :
    Except Error Placement := do
  let contract ← p.manifest.contract deployed.name
  match p.source? contract with
  | none => .error (.noCanonical (Canonical.canonicalName contract) contract.name)
  | some source =>
    let location := p.location source
    let code ← Storage.readAt storage location
    return ⟨contract.name, location, code, account.address, account.name, deployed.args⟩

def placementsOf (p : Project) (storage : σ) (d : Deployment) : Except Error (List Placement) := do
  let account ← p.manifest.account d.account
  d.contracts.toList.mapM (p.placement storage account)

/-- The contracts that are deployed on a network, in order. -/
def placements (p : Project) (storage : σ) (network : String) : Except Error (List Placement) :=
  ((p.manifest.deployments.onNetwork network).mapM (p.placementsOf storage)).map List.flatten

/-- What imports resolve to on a network. -/
def importTable (p : Project) (storage : σ) (network : String) : Except Error ImportTable :=
  (p.placements storage network).map fun placements =>
    .ofPlacements placements (p.aliasAddresses network) p.canonicalNames

end Files

end Project

end ContractProject
