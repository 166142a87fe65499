import ContractProject.AccessNode
import ContractProject.CommandLine.Command
import ContractProject.Installation

/-!
Running commands, and what they print: a JSON object with either the result or the error.
-/

namespace ContractProject

/-- Why a command fails. -/
inductive CommandFault where
  | noFetches
  /-- The contract stands for a dependency. -/
  | installed (contract : String)
  | project (error : Error)
  | unreadable (path : String) (fault : FileFault)
  deriving DecidableEq, Repr

namespace CommandFault

def argumentMessage (reason : String) : String := s!"Invalid arguments: {reason}"

def message : CommandFault → String
  | noFetches => argumentMessage "--max-concurrent-fetches must be at least 1"
  | installed contract =>
    argumentMessage
      (contract ++ " is an installed dependency, remove it from the dependencies instead")
  | project error => s!"Project error: {error.message}"
  | unreadable path fault => s!"Unable to read file '{path}', error: {fault.message}"

/-- The file that a failure is about. -/
def path? : CommandFault → Option String
  | project (.file path _) => some path
  | unreadable path _ => some path
  | _ => none

end CommandFault

/-- What a command leaves behind: the files, the requests it made, and its result. -/
structure Outcome (σ : Type) where
  storage : σ
  requests : List Url
  result : Except CommandFault Json

namespace Outcome

variable {σ : Type}

def exitCode (o : Outcome σ) : UInt8 :=
  match o.result with
  | .ok _ => 0
  | .error _ => 1

/-- The text that is printed. -/
def text (o : Outcome σ) : String :=
  Json.pretty (match o.result with
    | .ok result => .object [("Result", result)]
    | .error fault => .object [("Error", .string fault.message)])

/-- Leaves the files as they are. -/
def reading (storage : σ) (result : Except CommandFault Json) : Outcome σ := ⟨storage, [], result⟩

end Outcome

namespace Command

/-- Takes a failure of the project for one of the command. -/
def ofProject {α : Type} : Except Error α → Except CommandFault α
  | .ok a => .ok a
  | .error e => .error (.project e)

/-! ### Summaries -/

def optionalField (name : String) (value : Option String) : List (String × Json) :=
  value.toList.map fun value => (name, .string value)

def contractSummary (network : Option String) (c : Contract) : Json :=
  .object ([("name", .string c.name), ("location", .string c.location)]
    ++ optionalField "canonical" c.canonical
    ++ optionalField "address"
      ((network.bind fun network => c.aliases.address? network).map Address.toLiteral)
    ++ [("dependency", .bool c.isDependency)])

def placementSummary (p : Placement) : Json :=
  .object [("name", .string p.name), ("location", .string p.location),
    ("account", .string p.account), ("address", .string p.address.toLiteral)]

def dependencySummary (d : Dependency) : Json :=
  .object ([("name", .string d.name), ("source", .string d.source.toText),
    ("hash", .string d.hash)] ++ optionalField "canonical" d.canonical)

def dependencySummaries (p : Project) : Json :=
  .array (p.manifest.dependencies.toList.map dependencySummary)

def count {α : Type} (entries : Collection α) : Json := .number (.integer entries.size)

def manifestSummary (m : Manifest) : Json :=
  .object [("contracts", count m.contracts), ("dependencies", count m.dependencies),
    ("networks", count m.networks), ("accounts", count m.accounts),
    ("deployments", count m.deployments)]

def successSummary : Json := .string "Success"

/-! ### Commands -/

variable {σ : Type} [Storage σ]

/-- Removes a contract from the manifest. A contract that stands for a dependency is refused. -/
def removeContractFrom (p : Project) (name : String) : Except CommandFault Project := do
  let contract ← ofProject (p.manifest.contract name)
  if contract.isDependency then .error (.installed name)
  else
    let contracts ← ofProject (p.manifest.contracts.remove .contract name name)
    return { p with manifest := { p.manifest with contracts } }

def runRemoveContract (storage : σ) (path name : String) : Outcome σ :=
  match (ofProject (Project.load storage path)).bind (removeContractFrom · name) with
  | .error fault => .reading storage (.error fault)
  | .ok p =>
    match p.save storage with
    | (storage, .ok ()) => .reading storage (.ok successSummary)
    | (storage, .error e) => .reading storage (.error (.project e))

/-- The code of a file with its imports resolved on a network. -/
def resolvedCode (storage : σ) (path file network : String) : Except CommandFault Json := do
  let p ← ofProject (Project.load storage path)
  match Storage.read storage file with
  | .error fault => .error (.unreadable file fault)
  | .ok code =>
    let program ← ofProject (Cadence.Program.parse code [] file)
    let table ← ofProject (p.importTable storage network)
    let (program, replaced) := table.replace program
    ofProject replaced
    return .string (String.ofList program.code)

/-- Where the accounts were asked for that an installation fetched. -/
def requestUrls (i : Installation σ) : List Url :=
  i.requests.filterMap fun (network, address) =>
    ((i.project.manifest.networks.get? network).bind Network.endpoint?).map
      (AccessNode.accountUrl · address)

/-- Loads a project, installs into it and lists its dependencies. -/
def runInstallation (web : AccessNode.Transport) (storage : σ) (path : String)
    (fetch : FetchOptions)
    (install : Gateways → Installation σ → Installation σ × Except Error Unit) : Outcome σ :=
  match Project.load storage path with
  | .error e => .reading storage (.error (.project e))
  | .ok p =>
    if fetch.concurrency = 0 then .reading storage (.error .noFetches)
    else
      let (i, result) := install (.ofNetworks web p.manifest.networks) ⟨p, storage, []⟩
      { storage := i.storage
        requests := requestUrls i
        result := (ofProject result).map fun () => dependencySummaries i.project }

end Command

open Command in
/-- Runs a command with these files and this web. -/
def Invocation.run {σ : Type} [Storage σ] (web : AccessNode.Transport) (storage : σ)
    (i : Invocation) : Outcome σ :=
  let project := ofProject (Project.load storage i.manifest)
  match i.command with
  | .showContracts network =>
    .reading storage (project.map fun p =>
      .array (p.manifest.contracts.toList.map (contractSummary network)))
  | .showDeployments network =>
    .reading storage do
      let placements ← ofProject ((← project).placements storage network)
      return .array (placements.map placementSummary)
  | .removeContract name => runRemoveContract storage i.manifest name
  | .validate => .reading storage (project.map fun p => manifestSummary p.manifest)
  | .install fetch =>
    runInstallation web storage i.manifest fetch fun gateways =>
      Installation.install gateways fetch.importNetwork
  | .add source name fetch =>
    match Source.read source with
    | .error e => .reading storage (.error (.project e))
    | .ok s =>
      runInstallation web storage i.manifest fetch fun gateways =>
        Installation.add gateways fetch.importNetwork (name.getD s.contract) s
  | .listDependencies => .reading storage (project.map dependencySummaries)
  | .resolveImports file network => .reading storage (resolvedCode storage i.manifest file network)

end ContractProject
