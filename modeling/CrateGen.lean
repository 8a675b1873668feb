import CrateGen.EventStream.Unmarshal
import CrateGen.Generate.Service
import CrateGen.Model.Builder
import CrateGen.Settings.Json
import CrateGen.Proofs.Model.Session
import CrateGen.Proofs.Extraction.Idempotence
import CrateGen.Proofs.Code.Action
import CrateGen.Proofs.Code.Template
import CrateGen.Proofs.Code.Writes
import CrateGen.Proofs.Code.Finalize
import CrateGen.Proofs.Code.Connection
import CrateGen.Proofs.Code.Packages
import CrateGen.Proofs.Code.Settlement
import CrateGen.Proofs.Code.WriteOrder
import CrateGen.Proofs.EventStream.Agreement
import CrateGen.Proofs.EventStream.Printed
import CrateGen.Proofs.EventStream.PrintedPlan
import CrateGen.Proofs.EventStream.Unmarshaller
import CrateGen.Proofs.EventStream.Retargeting
import CrateGen.Proofs.EventStream.Variants
import CrateGen.Proofs.Generate.OperationModules
import CrateGen.Proofs.Generate.Faults
import CrateGen.Proofs.EventStream.References
import CrateGen.Proofs.Settings.RoundTrip
import CrateGen.Proofs.Generate.Decorators
import CrateGen.Proofs.Extraction.Commutation
import CrateGen.Proofs.Code.OnePass
import CrateGen.Proofs.Code.Restore
import CrateGen.Proofs.Code.Splicing
import CrateGen.Proofs.Code.Handover
import CrateGen.Proofs.Model.DepthFirst
import CrateGen.Proofs.Code.UniqueNames
import CrateGen.Proofs.Extraction.Refusal
import CrateGen.Proofs.EventStream.Classification
import CrateGen.Proofs.Text.Dedent
import CrateGen.Proofs.EventStream.Indifference
import CrateGen.Proofs.Generate.Documentation
import CrateGen.Proofs.Name.Identifiers
import CrateGen.Proofs.EventStream.Brackets
import CrateGen.Proofs.Code.SymbolTypes
import CrateGen.Proofs.Code.FilePaths
import CrateGen.Proofs.Generate.RetryableErrors
import CrateGen.Proofs.Generate.ExtractionFirst
import CrateGen.Proofs.Extraction.NameSearch
