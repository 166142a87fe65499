import ContractProject.Collection
import ContractProject.Json.Value
import ContractProject.Path
import ContractProject.Source

/-!
What a project's manifest is made of: contracts, dependencies, networks, accounts and deployments.
-/

namespace ContractProject

/-- An address that a contract is deployed at on a network. -/
structure Alias where
  network : String
  address : Address
  deriving BEq, DecidableEq, Repr

instance : Keyed Alias String := ⟨Alias.network⟩

/-- The aliases of a contract, at most one a network. The first one that is added stays. -/
abbrev Aliases := Collection Alias

namespace Aliases

def add (aliases : Aliases) (network : String) (address : Address) : Aliases :=
  aliases.insertNew ⟨network, address⟩

def address? (aliases : Aliases) (network : String) : Option Address :=
  (aliases.get? network).map Alias.address

def ofPairs (pairs : List (String × Address)) : Aliases :=
  pairs.foldl (fun aliases (network, address) => aliases.add network address) .empty

end Aliases

/-- An entity may name another one as canonical, and is then an alias of it: it shares the other's
source and is deployed under its own name. An empty name counts as none. -/
class Canonical (α : Type) where
  name : α → String
  canonical : α → Option String

namespace Canonical

variable {α : Type} [Canonical α]

/-- The entity that this one is an alias of. -/
def target? (a : α) : Option String := (canonical a).filter (· ≠ "")

def isAlias (a : α) : Bool := (target? a).isSome

/-- The name of the canonical entity, its own one for an entity that is no alias. -/
def canonicalName (a : α) : String := (target? a).getD (name a)

/-- The first entity that is an alias of itself. -/
def selfAlias? (entities : List α) : Option α :=
  entities.find? fun a => target? a = some (name a)

def aliasesOf (entities : List α) (canonicalName : String) : List α :=
  entities.filter fun a => target? a = some canonicalName

end Canonical

structure Contract where
  name : String
  /-- The path of the source, relative to the manifest. -/
  location : String
  aliases : Aliases
  canonical : Option String
  /-- Whether the contract stands for a dependency; such contracts are not written. -/
  isDependency : Bool
  deriving BEq, DecidableEq, Repr

instance : Keyed Contract String := ⟨Contract.name⟩

instance : Canonical Contract := ⟨Contract.name, Contract.canonical⟩

abbrev Contracts := Collection Contract

/-- A contract that comes from a network. -/
structure Dependency where
  name : String
  source : Source
  /-- The SHA-256 of the installed source in hexadecimal digits, empty before it is installed. -/
  hash : String
  aliases : Aliases
  canonical : Option String
  deriving BEq, DecidableEq, Repr

instance : Keyed Dependency String := ⟨Dependency.name⟩

instance : Canonical Dependency := ⟨Dependency.name, Dependency.canonical⟩

abbrev Dependencies := Collection Dependency

/-- The directory that dependencies are installed in, relative to the manifest. -/
def importsDirectory : String := "imports"

/-- Where the source of a dependency is installed. -/
def Dependency.location (d : Dependency) : String :=
  importsDirectory ++ "/" ++ d.source.address.toHex ++ "/" ++ d.source.contract
    ++ Path.sourceExtension

/-- The contract that stands for a dependency. With no aliases given it is aliased to the
dependency's address on `network`. -/
def Dependency.toContract (d : Dependency) (network : String) (aliases : Aliases) : Contract :=
  { name := d.name
    location := d.location
    aliases := if aliases.isEmpty then Aliases.add .empty network d.source.address else aliases
    canonical := d.canonical
    isDependency := true }

def Contracts.addDependency (contracts : Contracts) (d : Dependency) (network : String)
    (aliases : Aliases) : Contracts :=
  contracts.insert (d.toContract network aliases)

structure Network where
  name : String
  host : String
  /-- The public key of the access node, for secured connections. -/
  key : Option String
  deriving BEq, DecidableEq, Repr

instance : Keyed Network String := ⟨Network.name⟩

abbrev Networks := Collection Network

def emulator : String := "emulator"

def testnet : String := "testnet"

def mainnet : String := "mainnet"

/-- The networks that every project has at first. -/
def Networks.defaults : Networks :=
  .ofList [⟨emulator, "127.0.0.1:3569", none⟩,
    ⟨testnet, "access.devnet.nodes.onflow.org:9000", none⟩,
    ⟨mainnet, "access.mainnet.nodes.onflow.org:9000", none⟩]

structure Account where
  name : String
  address : Address
  /-- Carried through as written. -/
  key : Json
  deriving BEq, Repr

instance : Keyed Account String := ⟨Account.name⟩

abbrev Accounts := Collection Account

def Accounts.byAddress? (accounts : Accounts) (address : Address) : Option Account :=
  accounts.toList.find? (·.address = address)

/-- A contract that is deployed, with the arguments of its initializer. -/
structure DeployedContract where
  name : String
  args : List Json
  deriving BEq, Repr

instance : Keyed DeployedContract String := ⟨DeployedContract.name⟩

/-- The contracts that an account deploys on a network, in order. -/
structure Deployment where
  network : String
  account : String
  contracts : Collection DeployedContract
  deriving BEq, Repr

instance : Keyed Deployment (String × String) := ⟨fun d => (d.account, d.network)⟩

def Deployment.add (d : Deployment) (c : DeployedContract) : Deployment :=
  { d with contracts := d.contracts.insert c }

def Deployment.remove (d : Deployment) (name : String) : Deployment :=
  { d with contracts := ⟨d.contracts.toList.filter (·.name ≠ name)⟩ }

abbrev Deployments := Collection Deployment

def Deployments.onNetwork (deployments : Deployments) (network : String) : List Deployment :=
  deployments.toList.filter (·.network = network)

end ContractProject
