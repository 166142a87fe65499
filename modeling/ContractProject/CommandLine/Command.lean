import ContractProject.CommandLine.Usage
import ContractProject.Manifest.Basic

/-!
The commands, and how they are written.
-/

namespace ContractProject

/-- How contracts are fetched. -/
structure FetchOptions where
  /-- How many accounts may be fetched at a time. -/
  concurrency : Nat
  /-- The network that imports are fetched from, if not from that of the importing contract. -/
  importNetwork : Option String
  deriving DecidableEq, Repr

inductive Command where
  | showContracts (network : Option String)
  | showDeployments (network : String)
  | removeContract (name : String)
  | validate
  | install (fetch : FetchOptions)
  | add (source : String) (name : Option String) (fetch : FetchOptions)
  | listDependencies
  | resolveImports (file network : String)
  deriving DecidableEq, Repr

/-- A command for the project whose manifest is at a path. -/
structure Invocation where
  manifest : String
  command : Command
  deriving DecidableEq, Repr

namespace CommandLine

/-- The names of the commands. -/
inductive Verb where
  | showContracts
  | showDeployments
  | removeContract
  | validate
  | install
  | add
  | listDependencies
  | resolveImports
  deriving DecidableEq, Repr

def groups : List (String × List (String × Verb)) :=
  [("config", [("show-contracts", .showContracts), ("show-deployments", .showDeployments),
      ("remove-contract", .removeContract), ("validate", .validate)]),
    ("dependencies", [("install", .install), ("add", .add), ("list", .listDependencies)]),
    ("imports", [("resolve", .resolveImports)])]

def manifestOption : Parameter := ⟨"config-path", some 'f', .path⟩

def networkOption : Parameter := ⟨"network", none, .text⟩

def nameOption : Parameter := ⟨"name", none, .text⟩

def concurrencyOption : Parameter := ⟨"max-concurrent-fetches", none, .count⟩

def importNetworkOption : Parameter := ⟨"transitive-network", none, .text⟩

/-- Plain words are values of a parameter of this name. -/
def operandOf (form : ValueForm) : Parameter := ⟨"", none, form⟩

def fetchOptions : List Parameter := [concurrencyOption, importNetworkOption]

def Verb.signature : Verb → Signature
  | .showContracts => ⟨[manifestOption, networkOption], none⟩
  | .showDeployments => ⟨[manifestOption, networkOption], none⟩
  | .removeContract => ⟨[manifestOption], some (operandOf .text)⟩
  | .validate => ⟨[manifestOption], none⟩
  | .install => ⟨manifestOption :: fetchOptions, none⟩
  | .add => ⟨manifestOption :: nameOption :: fetchOptions, some (operandOf .text)⟩
  | .listDependencies => ⟨[manifestOption], none⟩
  | .resolveImports => ⟨[manifestOption, networkOption], some (operandOf .path)⟩

def defaultConcurrency : Nat := 8

namespace Reading

def given (r : Reading) (p : Parameter) : Option String := r.value? p.name

def required (r : Reading) (p : Parameter) : Except Usage String :=
  match r.given p with
  | some value => .ok value
  | none => .error .missingArgument

def fetch (r : Reading) : FetchOptions where
  concurrency := ((r.given concurrencyOption).bind count?).getD defaultConcurrency
  importNetwork := r.given importNetworkOption

end Reading

/-- The command that a verb and its values make. -/
def Verb.command (verb : Verb) (r : Reading) : Except Usage Command :=
  match verb with
  | .showContracts => .ok (.showContracts (r.given networkOption))
  | .showDeployments => (r.required networkOption).map .showDeployments
  | .removeContract => (r.required (operandOf .text)).map .removeContract
  | .validate => .ok .validate
  | .install => .ok (.install r.fetch)
  | .add =>
    (r.required (operandOf .text)).map fun source => .add source (r.given nameOption) r.fetch
  | .listDependencies => .ok .listDependencies
  | .resolveImports =>
    (r.required (operandOf .path)).map fun file =>
      .resolveImports file ((r.given networkOption).getD emulator)

/-- Nothing is below a command. -/
def belowVerb (_ : Verb) (rest : List String) : Usage :=
  if rest.isEmpty then .help else .unknownCommand

def belowGroup (verbs : List (String × Verb)) (rest : List String) : Usage :=
  helpFor verbs belowVerb rest

end CommandLine

open CommandLine in
/-- Reads the words of a command line. -/
def Invocation.parse (words : List String) : Except Usage Invocation := do
  let (verbs, words) ← select groups belowGroup false words
  let (verb, words) ← select verbs belowVerb false words
  let r ← verb.signature.read words
  return ⟨(r.given manifestOption).getD Manifest.defaultPath, ← verb.command r⟩

end ContractProject
