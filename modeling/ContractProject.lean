import ContractProject.Main
import ContractProject.Storage.Memory
import ContractProject.Proofs.Cadence.Lexeme
import ContractProject.Proofs.Cadence.Lexing
import ContractProject.Proofs.Cadence.Clause
import ContractProject.Proofs.Cadence.Part
import ContractProject.Proofs.Cadence.Reading
import ContractProject.Proofs.Cadence.Grammar
import ContractProject.Proofs.Cadence.Rewriting
import ContractProject.Proofs.Cadence.Extent
import ContractProject.Proofs.Address
import ContractProject.Proofs.Address.Spelling
import ContractProject.Proofs.Cadence.Writing
import ContractProject.Proofs.Cadence.Insertion
import ContractProject.Proofs.Cadence.Unprocessed
import ContractProject.Proofs.Cadence.Deployed
import ContractProject.Proofs.ImportTable.Replacement
import ContractProject.Proofs.ImportTable.Restoration
import ContractProject.Proofs.Cadence.Steps
import ContractProject.Proofs.ImportTable.Currency
import ContractProject.Proofs.Collection
import ContractProject.Proofs.Gateway
import ContractProject.Proofs.Storage
import ContractProject.Proofs.Installation.Following
import ContractProject.Proofs.Installation.Closure
import ContractProject.Proofs.ImportTable.Redeployment
import ContractProject.Proofs.Installation.Location
import ContractProject.Proofs.Installation.Agreement
import ContractProject.Proofs.Installation.Resolution
import ContractProject.Proofs.Json.Document
import ContractProject.Proofs.Json.Record
import ContractProject.Proofs.Manifest.Deployments
import ContractProject.Proofs.Manifest.ReadBack
import ContractProject.Proofs.Manifest.Dependencies
import ContractProject.Proofs.Manifest.Loading
import ContractProject.Proofs.Installation.Trace
import ContractProject.Proofs.Installation.Schedule
import ContractProject.Proofs.Installation.Outcome
import ContractProject.Proofs.Installation.Entries
import ContractProject.Proofs.Installation.Requests
import ContractProject.Proofs.Installation.Saving
import ContractProject.Proofs.Installation.OwnContracts
import ContractProject.Proofs.Installation.LocalNames
import ContractProject.Proofs.ImportTable.Lookup
import ContractProject.Proofs.ImportTable.Elsewhere
import ContractProject.Proofs.ImportTable.Precedence
import ContractProject.Proofs.ImportTable.ByName
import ContractProject.Proofs.OrderedMap
import ContractProject.Proofs.Manifest.Regrouping
import ContractProject.Proofs.Storage.Filing
import ContractProject.Proofs.Storage.Watched
import ContractProject.Proofs.Installation.Writes
import ContractProject.Proofs.Installation.Repetition
import ContractProject.Proofs.Installation.Renaming
import ContractProject.Proofs.CommandLine.Removal
import ContractProject.Proofs.Path.Route
import ContractProject.Proofs.Path.NormalForm
import ContractProject.Proofs.ImportTable.Importer
