import CodingStandard.Main
import CodingStandard.CommandLine
import CodingStandard.Analysis
import CodingStandard.Preset
import CodingStandard.Linter
import CodingStandard.Proofs.Preorder
import CodingStandard.Proofs.Recording
import CodingStandard.Proofs.Calls
import CodingStandard.Proofs.Messages
import CodingStandard.Proofs.Builtin
import CodingStandard.Proofs.Isolation
import CodingStandard.Proofs.Bindings
import CodingStandard.Proofs.Reexport
import CodingStandard.Proofs.DottedName
import CodingStandard.Proofs.InterfaceImport
import CodingStandard.Proofs.Arrangement
import CodingStandard.Proofs.Lines
import CodingStandard.Proofs.Fragments
import CodingStandard.Proofs.OrderedTree
import CodingStandard.Proofs.InterfaceSearch
import CodingStandard.Proofs.MissingDocstring
import CodingStandard.Proofs.ModuleCache
import CodingStandard.Proofs.SearchTermination
import CodingStandard.Proofs.ReportOrder
import CodingStandard.Proofs.Containment
import CodingStandard.Proofs.Offsets
import CodingStandard.Proofs.Indentation
import CodingStandard.Proofs.Spans
import CodingStandard.Proofs.Shadowing
import CodingStandard.Proofs.Registration
import CodingStandard.Proofs.Filtering
import CodingStandard.Proofs.CompactLines
import CodingStandard.Proofs.Scoping
import CodingStandard.Proofs.Methods
import CodingStandard.Proofs.PrecedingValue
import CodingStandard.Proofs.Inheritance
import CodingStandard.Proofs.DocstringFindings
import CodingStandard.Proofs.Fields
import CodingStandard.Proofs.DocstringFields
import CodingStandard.Proofs.Literals
import CodingStandard.Proofs.DocstringLines
import CodingStandard.Proofs.CommentBlocks
import CodingStandard.Proofs.Directives
import CodingStandard.Proofs.Respacing
import CodingStandard.Proofs.AddedComments
import CodingStandard.Proofs.LineBreaks
import CodingStandard.Proofs.AsyncDefinitions
import CodingStandard.Proofs.Policies
import CodingStandard.Proofs.MethodNames
import CodingStandard.Proofs.ModuleFiles
import CodingStandard.Proofs.Exclusions
import CodingStandard.Proofs.Terminators
import CodingStandard.Proofs.Quotes
import CodingStandard.Proofs.Notice
import CodingStandard.Proofs.ChainedAssignments
import CodingStandard.Proofs.Templates
