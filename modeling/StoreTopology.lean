import StoreTopology.Inspection
import StoreTopology.Builder.StandIn
import StoreTopology.Proofs.Json.Reading
import StoreTopology.Proofs.Json.Strings
import StoreTopology.Proofs.Json.Integers
import StoreTopology.Proofs.Json.Depth
import StoreTopology.Proofs.Json.RoundTrip
import StoreTopology.Proofs.Action
import StoreTopology.Proofs.Json.Limit
import StoreTopology.Proofs.FileTree.Replacing
import StoreTopology.Proofs.Storage.DataFile
import StoreTopology.Proofs.Storage.Durability
import StoreTopology.Proofs.Section.References
import StoreTopology.Proofs.Section.Settling
import StoreTopology.Proofs.Section.Contents
import StoreTopology.Proofs.Section.Language
import StoreTopology.Proofs.Section.WrittenLine
import StoreTopology.Proofs.Section.RoundTrip
import StoreTopology.Proofs.Builder.Growing
import StoreTopology.Proofs.Option.Settling
import StoreTopology.Proofs.Topology.Building
import StoreTopology.Proofs.Topology.Compilation
import StoreTopology.Proofs.Topology.Validation
import StoreTopology.Proofs.Topology.Phases
import StoreTopology.Proofs.Storage.Cells
import StoreTopology.Proofs.Database.Closing
import StoreTopology.Proofs.Builder.Orderly
import StoreTopology.Proofs.Topology.Release
import StoreTopology.Proofs.Storage.View
import StoreTopology.Proofs.Database.Isolation
import StoreTopology.Proofs.Topology.Calls
import StoreTopology.Proofs.Topology.Order
import StoreTopology.Proofs.FileTree.Sparing
import StoreTopology.Proofs.Database.Lifecycle
import StoreTopology.Proofs.Storage.Copying
import StoreTopology.Proofs.Storage.Independence
import StoreTopology.Proofs.Database.Agreement
import StoreTopology.Proofs.Section.Extent
import StoreTopology.Proofs.Section.FirstProblem
import StoreTopology.Proofs.Topology.Enclosing
import StoreTopology.Proofs.Topology.Fitting
import StoreTopology.Proofs.Section.Layout
import StoreTopology.Proofs.Section.Joining
import StoreTopology.Proofs.Storage.Emptied
import StoreTopology.Proofs.Storage.Filling
import StoreTopology.Proofs.Database.Accounting
import StoreTopology.Proofs.Database.Finality
import StoreTopology.Proofs.Storage.ReadOnly
import StoreTopology.Proofs.Settings.Description
import StoreTopology.Proofs.Topology.Description
import StoreTopology.Proofs.Text.LetterCase
import StoreTopology.Proofs.Section.ReferenceCase
import StoreTopology.Proofs.Section.LineCase
import StoreTopology.Proofs.Section.LetterCase
import StoreTopology.Proofs.FileTree.Staying
import StoreTopology.Proofs.FileTree.Missing
import StoreTopology.Proofs.FileTree.Removing
import StoreTopology.Proofs.FileTree.Repeating
import StoreTopology.Proofs.Storage.Reopening
import StoreTopology.Proofs.Builder.Repeating
import StoreTopology.Proofs.Builder.Sufficing
import StoreTopology.Proofs.Repetition
import StoreTopology.Proofs.Topology.Recompiling
import StoreTopology.Proofs.Section.Expansion
import StoreTopology.Proofs.Section.Spelling
import StoreTopology.Proofs.Option.Keys
import StoreTopology.Proofs.Option.Meaning
import StoreTopology.Proofs.FileTree.Differing
import StoreTopology.Proofs.Storage.AllOrNothing
import StoreTopology.Proofs.Option.Exactness
import StoreTopology.Proofs.Section.Definitions
import StoreTopology.Proofs.Section.Firmness
import StoreTopology.Proofs.Section.Values
import StoreTopology.Proofs.Topology.Conformance
import StoreTopology.Proofs.Database.ClosingAll
import StoreTopology.Proofs.Storage.Quota
import StoreTopology.Proofs.Builder.Ensuring
import StoreTopology.Proofs.Section.Openings
import StoreTopology.Proofs.Builder.TypeNames
import StoreTopology.Proofs.Storage.CleaningUp
