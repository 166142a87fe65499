import ContractProject.Cadence.Outline
import ContractProject.Source
import ContractProject.Storage.Basic

/-!
What can go wrong with a project, and how it is said.
-/

namespace ContractProject

/-- Why a source is no program, or not the program of one contract. -/
inductive ProgramFault where
  | encoding (fault : Utf8.Fault)
  | outline (fault : Cadence.OutlineFault)
  | severalDeclarations
  | noContract
  deriving DecidableEq, Repr

def ProgramFault.message : ProgramFault → String
  | .encoding fault => fault.message
  | .outline fault => fault.message
  | .severalDeclarations =>
    "the code must declare exactly one contract or contract interface"
  | .noContract => "unable to determine contract name"

/-- What a look-up was for. -/
inductive EntityKind where
  | contract
  | dependency
  | network
  | account
  | deployment
  | deployedContract
  | gateway
  deriving DecidableEq, Repr

def EntityKind.label : EntityKind → String
  | .contract => "contract"
  | .dependency => "dependency"
  | .network => "network"
  | .account => "account"
  | .deployment => "deployment"
  | .deployedContract => "deployment of"
  | .gateway => "gateway for network"

/-- Why an account or its contracts cannot be had from a network. -/
inductive FetchFault where
  | noAccount (address : Address)
  | badStatus (address : Address) (status : String)
  | badBody (address : Address)
  | badCode (contract : String)
  | unreachable (address : Address) (url : String)
  deriving DecidableEq, Repr

def FetchFault.message : FetchFault → String
  | .noAccount address => s!"account {address.toLiteral} not found"
  | .badStatus address status => s!"failed to get account {address.toHex}: status {status}"
  | .badBody address => s!"failed to get account {address.toHex}: error decoding response body"
  | .badCode contract => s!"contract {contract} has invalid code"
  | .unreachable address url =>
    s!"failed to get account {address.toHex}: error sending request for url ({url})"

inductive Error where
  /-- An entity names itself as canonical. -/
  | selfCanonical (kind : EntityKind) (name : String)
  /-- A manifest with such an entity is no project. -/
  | unsoundProject (kind : EntityKind) (name : String)
  | noCanonical (canonical name : String)
  | noEndpoint (network host : String)
  | notFound (kind : EntityKind) (name : String)
  | program (location : String) (fault : ProgramFault)
  | unresolvedImport (location : String)
  | fetch (fault : FetchFault)
  | address (input : String) (fault : Address.Fault)
  | source (input : String) (fault : Source.Fault)
  | file (path : String) (fault : FileFault)
  /-- A text is no document of the expected form. -/
  | document
  deriving DecidableEq, Repr

namespace Error

def selfCanonicalMessage (kind : EntityKind) (name : String) : String :=
  s!"{kind.label} {name} cannot have itself as canonical"

def message : Error → String
  | selfCanonical kind name => selfCanonicalMessage kind name
  | unsoundProject kind name =>
    s!"invalid project configuration: {selfCanonicalMessage kind name}"
  | noCanonical canonical name => s!"canonical contract {canonical} not found for alias {name}"
  | noEndpoint network host => s!"no REST endpoint known for network {network} ({host})"
  | notFound kind name => s!"{kind.label} {name} does not exist"
  | program location fault => s!"failed to parse {location}: {fault.message}"
  | unresolvedImport location =>
    s!"import {location} could not be resolved from provided contracts"
  | fetch fault => fault.message
  | address input fault => s!"invalid address {input}: {fault.reason}"
  | source input fault => s!"invalid remote source {input}: {fault.reason}"
  | file path fault => s!"IO error for {path}: {fault.message}"
  | document => "serialization error"

end Error

def Address.read (input : String) : Except Error Address :=
  match Address.parse input with
  | .ok a => .ok a
  | .error fault => .error (.address input fault)

def Source.read (input : String) : Except Error Source :=
  match Source.parse input with
  | .ok s => .ok s
  | .error fault => .error (.source input fault)

end ContractProject
