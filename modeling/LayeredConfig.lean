import LayeredConfig.Main
import LayeredConfig.Schema
import LayeredConfig.Proofs.Text.LowerCase
import LayeredConfig.Proofs.Path.Parting
import LayeredConfig.Proofs.Path.Writing
import LayeredConfig.Proofs.Store.Run
import LayeredConfig.Proofs.Path.Leaves
import LayeredConfig.Proofs.Store.Reachable
import LayeredConfig.Proofs.Store.Precedence
import LayeredConfig.Proofs.Path.DeepMerge
import LayeredConfig.Proofs.Store.History
import LayeredConfig.Proofs.Path.Grammar
import LayeredConfig.Proofs.Path.Printing
import LayeredConfig.Proofs.Path.LetterCase
import LayeredConfig.Proofs.Path.Rewriting
import LayeredConfig.Proofs.Path.Canonical
import LayeredConfig.Proofs.Store.ReadBack
import LayeredConfig.Proofs.Store.Nested
import LayeredConfig.Proofs.Store.Bulk
import LayeredConfig.Proofs.Store.Subtree
import LayeredConfig.Proofs.Store.Assembly
import LayeredConfig.Proofs.Store.WholeTables
import LayeredConfig.Proofs.Environment.Skipping
import LayeredConfig.Proofs.Environment.Asking
import LayeredConfig.Proofs.Command.Ending
import LayeredConfig.Proofs.Command.Stages
import LayeredConfig.Proofs.Environment.Breaking
import LayeredConfig.Proofs.Store.FixedPoint
import LayeredConfig.Proofs.Path.Refusal
import LayeredConfig.Proofs.Path.Segments
import LayeredConfig.Proofs.Path.LeadingZeros
import LayeredConfig.Proofs.Path.Flaws
import LayeredConfig.Proofs.Path.Reach
import LayeredConfig.Proofs.Path.Reordering
import LayeredConfig.Proofs.Store.WellFormed
import LayeredConfig.Proofs.Value.Reading
import LayeredConfig.Proofs.Store.Answering
import LayeredConfig.Proofs.Store.Filtering
import LayeredConfig.Proofs.Store.Freezing
import LayeredConfig.Proofs.Store.Gathering
import LayeredConfig.Proofs.Store.LayerOrder
import LayeredConfig.Proofs.Value.Replacing
import LayeredConfig.Proofs.Source.File
import LayeredConfig.Proofs.Source.GitHub
import LayeredConfig.Proofs.Number.RoundsAway
import LayeredConfig.Proofs.Store.Failing
import LayeredConfig.Proofs.Value.Agreement
import LayeredConfig.Proofs.Value.Representing
import LayeredConfig.Proofs.Value.Equality
import LayeredConfig.Proofs.Source.Environ
import LayeredConfig.Proofs.Source.Redis
import LayeredConfig.Proofs.Path.DepthFirst
import LayeredConfig.Proofs.Entries.LastWrite
import LayeredConfig.Proofs.Source.Paging
