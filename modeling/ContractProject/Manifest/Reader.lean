import ContractProject.Json.Record
import ContractProject.Manifest.Basic

/-!
Reading manifests. Contracts, dependencies, networks and deployed contracts have a short form, a
string, and a long one. The whole document is read before the sources of its dependencies are.
-/

namespace ContractProject.Manifest

open Document

/-- How deeply a value may nest that lies inside so many containers. -/
def room (containers : Nat) : Nat := nestingLimit - containers

/-- Runs a reader on an entry with two forms, all of which must be readable as a value. -/
def eitherForm? {α : Type} (containers : Nat) (short : String → α) (long : Document → Option α)
    (d : Document) : Option α :=
  match value? (room containers) d with
  | none => none
  | some (.string text) => some (short text)
  | some _ => long d

def address? (d : Document) : Option Address := do (Address.parse (← d.text?)).toOption

/-- A contract or dependency as written under its name. -/
structure CodeEntry where
  source : String
  hash : String
  aliases : Aliases
  canonical : Option String
  deriving BEq, Repr

def CodeEntry.short (source : String) : CodeEntry := ⟨source, "", .empty, none⟩

def aliases? (field : Option Document) : Option Aliases :=
  (optional? (mapping? address?) [] field).map Aliases.ofPairs

/-- An empty canonical name is dropped. -/
def canonical? (field : Option Document) : Option (Option String) :=
  (nullable? text? field).map (·.filter (· ≠ ""))

def longContract? (d : Document) : Option CodeEntry := do
  match ← listedRecord? ["source", "aliases", "canonical"] d with
  | [some source, aliases, canonical] =>
    return ⟨← source.text?, "", ← aliases? aliases, ← canonical? canonical⟩
  | _ => none

def longDependency? (d : Document) : Option CodeEntry := do
  match ← listedRecord? ["source", "hash", "aliases", "canonical"] d with
  | [some source, hash, aliases, canonical] =>
    return ⟨← source.text?, ← optional? text? "" hash, ← aliases? aliases, ← canonical? canonical⟩
  | _ => none

def longNetwork? (d : Document) : Option (String × Option String) := do
  match ← record? ["host", "key"] d with
  | [some host, some key] => return (← host.text?, some (← key.text?))
  | _ => none

def account? (d : Document) : Option (Address × Json) := do
  match ← listedRecord? ["address", "key"] d with
  | [some address, key] =>
    return (← address? address, ← optional? (value? (room 3)) .null key)
  | _ => none

def longDeployed? (d : Document) : Option DeployedContract := do
  match ← record? ["name", "args"] d with
  | [some name, args] =>
    return ⟨← name.text?, ← optional? (list? (value? (room 6))) [] args⟩
  | _ => none

/-- A manifest whose dependencies' sources are not read yet. -/
structure Draft where
  contracts : List (String × CodeEntry)
  dependencies : List (String × CodeEntry)
  networks : List (String × String × Option String)
  accounts : List (String × Address × Json)
  deployments : List (String × List (String × List DeployedContract))
  deriving BEq, Repr

def section? {α : Type} (read : Document → Option α) (field : Option Document) :
    Option (List (String × α)) :=
  optional? (mapping? read) [] field

def Draft.ofDocument? (d : Document) : Option Draft := do
  match ← listedRecord? ["contracts", "dependencies", "networks", "accounts", "deployments"] d with
  | [contracts, dependencies, networks, accounts, deployments] =>
    return {
      contracts := ← section? (eitherForm? 2 .short longContract?) contracts
      dependencies := ← section? (eitherForm? 2 .short longDependency?) dependencies
      networks := ← section? (eitherForm? 2 (·, none) longNetwork?) networks
      accounts := ← section? account? accounts
      deployments :=
        ← section? (mapping? (list? (eitherForm? 4 (⟨·, []⟩) longDeployed?))) deployments }
  | _ => none

def contractOf (name : String) (entry : CodeEntry) : Contract :=
  ⟨name, entry.source, entry.aliases, entry.canonical, false⟩

def dependencyOf (name : String) (entry : CodeEntry) : Except Error Dependency := do
  return ⟨name, ← Source.read entry.source, entry.hash, entry.aliases, entry.canonical⟩

def deploymentOf (network account : String) (contracts : List DeployedContract) : Deployment :=
  ⟨network, account, .ofList contracts⟩

/-- Reads the sources and adds the contracts that stand for dependencies. -/
def Draft.complete (draft : Draft) : Except Error Manifest := do
  let dependencies ← draft.dependencies.mapM fun (name, entry) => dependencyOf name entry
  let dependencies : Dependencies := .ofList dependencies
  let contracts : Contracts :=
    .ofList (draft.contracts.map fun (name, entry) => contractOf name entry)
  return {
    contracts := withDependencies contracts dependencies
    dependencies
    networks := .ofList (draft.networks.map fun (name, host, key) => ⟨name, host, key⟩)
    accounts := .ofList (draft.accounts.map fun (name, address, key) => ⟨name, address, key⟩)
    deployments := .ofList (draft.deployments.flatMap fun (network, byAccount) =>
      byAccount.map fun (account, contracts) => deploymentOf network account contracts) }

def parse (bytes : Bytes) : Except Error Manifest :=
  match (Document.parse? bytes).bind Draft.ofDocument? with
  | some draft => draft.complete
  | none => .error .document

end ContractProject.Manifest
