import CommandShell.Action
import CommandShell.Demo
import CommandShell.FrozenView
import CommandShell.Main
import CommandShell.Renaming
import CommandShell.Proofs.Buckets
import CommandShell.Proofs.ClosedForm
import CommandShell.Proofs.RawBindings
import CommandShell.Proofs.Spelling
import CommandShell.Proofs.Classification
import CommandShell.Proofs.LeadingMarkers
import CommandShell.Proofs.Conservation
import CommandShell.Proofs.NamedAssignment
import CommandShell.Proofs.Segments
import CommandShell.Proofs.NeutralSplit
import CommandShell.Proofs.WrittenTokens
import CommandShell.Proofs.OrderedScan
import CommandShell.Proofs.AliasLines
import CommandShell.Proofs.BuiltinReads
import CommandShell.Proofs.Routing
import CommandShell.Proofs.ShellLines
import CommandShell.Proofs.ShippedLines
import CommandShell.Proofs.Registrations
import CommandShell.Proofs.LeftoverAliases
import CommandShell.Proofs.Concatenation
import CommandShell.Proofs.InertTokens
import CommandShell.Proofs.ModuleLoads
import CommandShell.Proofs.Inclusion
import CommandShell.Proofs.Reinclusion
import CommandShell.Proofs.HelpColours
import CommandShell.Proofs.UncolouredHelp
import CommandShell.Proofs.FaultPresentation
import CommandShell.Proofs.VisibleSummary
import CommandShell.Proofs.SyntaxLines
import CommandShell.Proofs.Suggestions
import CommandShell.Proofs.Expansion
import CommandShell.Proofs.StoredVariables
import CommandShell.Proofs.BlankLines
import CommandShell.Proofs.TypedNames
import CommandShell.Proofs.DeclaredNames
import CommandShell.Proofs.CheckedDeclarations
import CommandShell.Proofs.BucketOrder
import CommandShell.Proofs.PluralEndings
