import Scaffold.Inflector
import Scaffold.Text.Blank
import Scaffold.Text.Lines
import Scaffold.Text.Literal
import Scaffold.SortedMap
import Scaffold.Code.Fragment
import Scaffold.Code.SourceFile
import Scaffold.Model.Entity
import Scaffold.Model.KeyMemory
import Scaffold.Model.DocumentReader
import Scaffold.Model.Summary
import Scaffold.Rules.Dispatch
import Scaffold.Rules.Written
import Scaffold.Rules.Session
import Scaffold.Rules.Trace
import Scaffold.Files.Listing
import Scaffold.Interface.Rules
import Scaffold.Storage.Capabilities
import Scaffold.Settings.Config
import Scaffold.Generation
import Scaffold.Journal.Writer
import Scaffold.CommandLine.Footprint
import Scaffold.Journal.Line
import Scaffold.Main
import Scaffold.Proofs.Rules.Calls
import Scaffold.Proofs.Rules.Layers
import Scaffold.Proofs.Generation.Layers
import Scaffold.Proofs.Rules.Failures
import Scaffold.Proofs.Rules.Edits
import Scaffold.Proofs.Generation.Failures
import Scaffold.Proofs.Generation.RuleLists
import Scaffold.Proofs.Rules.Folds
import Scaffold.Proofs.Rules.History
import Scaffold.Proofs.Rules.Order
import Scaffold.Proofs.Files.Target
import Scaffold.Proofs.Files.Growth
import Scaffold.Proofs.Files.Written
import Scaffold.Proofs.Rules.Emission
import Scaffold.Proofs.Generation.Runs
import Scaffold.Proofs.Storage.FileNames
import Scaffold.Proofs.Storage.FileClashes
import Scaffold.Proofs.Generation.Collisions
import Scaffold.Proofs.Generation.InputFailures
import Scaffold.Proofs.Rules.Values
import Scaffold.Proofs.Model.Keys
import Scaffold.Proofs.Model.KeyQuestions
import Scaffold.Proofs.Rules.Additive
import Scaffold.Proofs.Storage.Contents
import Scaffold.Proofs.Interface.Traits
import Scaffold.Proofs.Storage.Acceptance
import Scaffold.Proofs.Storage.Blocks
import Scaffold.Proofs.Storage.Signatures
import Scaffold.Proofs.Model.Resolution
import Scaffold.Proofs.Model.References
import Scaffold.Proofs.Storage.Associations
import Scaffold.Proofs.Storage.Constructors
import Scaffold.Proofs.Storage.TemplateSlot
import Scaffold.Proofs.Model.Dependence
import Scaffold.Proofs.Model.Faults
import Scaffold.Proofs.Generation.Dependence
import Scaffold.Proofs.Files.Comparison
import Scaffold.Proofs.Rules.Extensions
import Scaffold.Proofs.Generation.Extensions
import Scaffold.Proofs.Files.Repetition
import Scaffold.Proofs.Rules.Repetition
import Scaffold.Proofs.Generation.Repetition
import Scaffold.Proofs.Rules.Logs
import Scaffold.Proofs.Rules.Tables
import Scaffold.Proofs.Rules.Sharing
import Scaffold.Proofs.Interface.Declarations
import Scaffold.Proofs.Generation.KeyTypes
import Scaffold.Proofs.Interface.Markers
import Scaffold.Proofs.Storage.Markers
import Scaffold.Proofs.Generation.Markers
import Scaffold.Proofs.Storage.Counterparts
import Scaffold.Proofs.Text.Lines
import Scaffold.Proofs.Text.Literal
import Scaffold.Proofs.Storage.Literals
import Scaffold.Proofs.Storage.AssociationColumns
import Scaffold.Proofs.Generation.Index
import Scaffold.Proofs.Settings.Overlay
import Scaffold.Proofs.Settings.Leaves
import Scaffold.Proofs.Settings.Precedence
import Scaffold.Proofs.Model.Lookups
import Scaffold.Proofs.Text.Plural
import Scaffold.Proofs.Text.ByteOrder
import Scaffold.Proofs.Code.Layout
import Scaffold.Proofs.Code.SourceFiles
import Scaffold.Proofs.Code.Fragments
