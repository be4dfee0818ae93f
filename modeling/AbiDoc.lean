import AbiDoc.Main
import AbiDoc.Session
import AbiDoc.Proofs.Outcome
import AbiDoc.Proofs.Access
import AbiDoc.Proofs.ComponentShape
import AbiDoc.Proofs.UniqueReadability
import AbiDoc.Proofs.CompilerKey
import AbiDoc.Proofs.CategoryRecords
import AbiDoc.Proofs.WellFormed
import AbiDoc.Proofs.Totality
import AbiDoc.Proofs.ContractOutcome
import AbiDoc.Proofs.StringText
import AbiDoc.Proofs.JsonLayout
import AbiDoc.Proofs.JsonText
import AbiDoc.Proofs.DocText
import AbiDoc.Proofs.MergeOutcome
import AbiDoc.Proofs.RunOutcome
import AbiDoc.Proofs.Catalogue
import AbiDoc.Proofs.Selection
import AbiDoc.Proofs.Noninterference
import AbiDoc.Proofs.DocReading
import AbiDoc.Proofs.ExactLookup
import AbiDoc.Proofs.RecordParts
import AbiDoc.Proofs.Coherence
import AbiDoc.Proofs.Loading
import AbiDoc.Proofs.ExtendedInterface
import AbiDoc.Proofs.DescribedOutputs
import AbiDoc.Proofs.DescribedInputs
import AbiDoc.Proofs.DeclaredParameters
import AbiDoc.Proofs.FileFrame
import AbiDoc.Proofs.OutputRoutes
import AbiDoc.Proofs.BuildRecord
import AbiDoc.Proofs.DeclarationLine
import AbiDoc.Proofs.ArgumentOrder
