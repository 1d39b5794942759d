import AbiTypings.Main
import AbiTypings.Proofs.Contract.Signatures
import AbiTypings.Proofs.Session.Directory
import AbiTypings.Proofs.Typings.Nesting
import AbiTypings.Proofs.Typings.Reuse
import AbiTypings.Proofs.Files.Growth
import AbiTypings.Proofs.Files.WrittenPath
import AbiTypings.Proofs.Session.Writing
import AbiTypings.Proofs.Session.Interruption
import AbiTypings.Proofs.CommandLine.Run
import AbiTypings.Proofs.CommandLine.Effect
import AbiTypings.Proofs.Files.WellFormed
import AbiTypings.Proofs.Session.SearchAfter
import AbiTypings.Proofs.CommandLine.Repetition
import AbiTypings.Proofs.Sorting.Gallop
import AbiTypings.Proofs.Sorting.Merge
import AbiTypings.Proofs.Sorting.Runs
import AbiTypings.Proofs.Diagnostic.Summary
import AbiTypings.Proofs.CommandLine.Reporting
import AbiTypings.Proofs.EvmType.Grammar
import AbiTypings.Proofs.Contract.Components
import AbiTypings.Proofs.Contract.Strays
import AbiTypings.Proofs.EvmType.Shape
import AbiTypings.Proofs.Contract.View
import AbiTypings.Proofs.Contract.ClassName
import AbiTypings.Proofs.Typings.DeclaredNames
import AbiTypings.Proofs.EvmType.Unambiguous
import AbiTypings.Proofs.EvmType.Directions
import AbiTypings.Proofs.Typings.FieldNames
import AbiTypings.Proofs.Contract.ClassNameCharacters
import AbiTypings.Proofs.EvmType.Refusals
import AbiTypings.Proofs.Diagnostic.Tally
import AbiTypings.Proofs.Text.Records
import AbiTypings.Proofs.Typings.ResultRecords
