import ContractProject.Error
import ContractProject.Manifest.Entities

/-!
The manifest of a project: its contracts, dependencies, networks, accounts and deployments.
-/

namespace ContractProject

section Entries

variable {α κ : Type} [Keyed α κ] [DecidableEq κ]

/-- The entry with a key. The kind and the name are for the error that there is none. -/
def Collection.find (c : Collection α) (kind : EntityKind) (name : String) (k : κ) :
    Except Error α :=
  match c.get? k with
  | some a => .ok a
  | none => .error (.notFound kind name)

def Collection.remove (c : Collection α) (kind : EntityKind) (name : String) (k : κ) :
    Except Error (Collection α) :=
  match c.erase? k with
  | some c => .ok c
  | none => .error (.notFound kind name)

end Entries

/-- No entity is its own canonical one. -/
def Canonical.check {α : Type} [Canonical α] (kind : EntityKind) (entities : List α) :
    Except Error Unit :=
  match selfAlias? entities with
  | some a => .error (.selfCanonical kind (Canonical.name a))
  | none => .ok ()

/-- How errors name a deployment. -/
def Deployment.describe (account network : String) : String := s!"for {account} on {network}"

structure Manifest where
  contracts : Contracts
  dependencies : Dependencies
  networks : Networks
  accounts : Accounts
  deployments : Deployments
  deriving BEq, Repr

/-- Where a project's manifest is, unless said otherwise. -/
def Manifest.defaultPath : String := "flow.json"

namespace Manifest

/-- The manifest of a new project. -/
def initial : Manifest := ⟨.empty, .empty, .defaults, .empty, .empty⟩

/-- The first entity that names itself as canonical: contracts before dependencies. A canonical
entity that does not exist is no fault. -/
def selfCanonical? (m : Manifest) : Option (EntityKind × String) :=
  match Canonical.selfAlias? m.contracts.toList with
  | some c => some (.contract, c.name)
  | none => (Canonical.selfAlias? m.dependencies.toList).map fun d => (.dependency, d.name)

def validate (m : Manifest) : Except Error Unit :=
  match m.selfCanonical? with
  | some (kind, name) => .error (.selfCanonical kind name)
  | none => .ok ()

/-- Adds the contracts that stand for dependencies, except where a contract has the name already. -/
def withDependencies (contracts : Contracts) (dependencies : Dependencies) : Contracts :=
  dependencies.toList.foldl
    (fun contracts d =>
      if contracts.contains d.name then contracts
      else contracts.addDependency d d.source.network d.aliases)
    contracts

def contract (m : Manifest) (name : String) : Except Error Contract :=
  m.contracts.find .contract name name

def account (m : Manifest) (name : String) : Except Error Account :=
  m.accounts.find .account name name

end Manifest

end ContractProject
